import Imprint.Proofs.Imprinting.Declared

/-!
# Imprinting — line by line

Imprinting puts `lineAfter` in the place of each line: the replacement, or the line itself where it
declares nothing.  If no value holds a newline (`Unbroken`), a replacement is one line again, and so
the pieces of the imprinted text are the pieces of the text, each with `lineAfter` in its place
(`pieces_imprint`).  What this means for the declarations in the text is `redeclared_imprint`.
-/

namespace Imprint

attribute [ext] Imprinted

namespace Metadata

variable {m : Metadata} {line : Text}

/-! ### A line, imprinted -/

/-- The line as it is after imprinting. -/
def lineAfter (m : Metadata) (line : Text) : Text :=
  (m.imprintLine line).getD line

/-- A line that declares nothing is kept to the last character. -/
theorem lineAfter_eq_self (h : ∀ f, ¬ m.Declares line f) : m.lineAfter line = line := by
  rw [lineAfter, imprintLine_eq_none_iff.2 h, Option.getD_none]

theorem lineAfter_eq_of_imprintLine {r : Text} (h : m.imprintLine line = some r) :
    m.lineAfter line = r := by
  rw [lineAfter, h, Option.getD_some]

/-- A line that declares something becomes a declaration. -/
theorem isDeclaration_lineAfter {f : Field} (h : m.Declares line f) :
    m.IsDeclaration (m.lineAfter line) := by
  obtain ⟨r, hr, hm⟩ := exists_imprintLine h
  rwa [lineAfter_eq_of_imprintLine hr]

/-- A line is kept and declares nothing, or has become a declaration. -/
theorem lineAfter_cases (m : Metadata) (line : Text) :
    (m.lineAfter line = line ∧ ∀ f, ¬ m.Declares line f) ∨ m.IsDeclaration (m.lineAfter line) := by
  by_cases h : ∃ f, m.Declares line f
  · obtain ⟨f, hf⟩ := h
    exact .inr (isDeclaration_lineAfter hf)
  · have hno : ∀ f, ¬ m.Declares line f := not_exists.1 h
    exact .inl ⟨lineAfter_eq_self hno, hno⟩

/-- What declares something in an imprinted line is a declaration. -/
theorem isDeclaration_of_declares {f : Field} (h : m.Declares (m.lineAfter line) f) :
    m.IsDeclaration (m.lineAfter line) := by
  rcases m.lineAfter_cases line with ⟨e, hno⟩ | hd
  · rw [e] at h
    exact absurd h (hno f)
  · exact hd

/-! ### A text, imprinted -/

/-- No value holds a newline. -/
def Unbroken (m : Metadata) : Prop := ∀ f v, m.value? f = some v → '\n' ∉ v

theorem imprint_text (m : Metadata) (t : Text) :
    (m.imprint t).text = (t.pieces.map m.lineAfter).flatten := by
  rw [imprint, List.flatMap_def]
  rfl

theorem imprint_replaced (m : Metadata) (t : Text) :
    (m.imprint t).replaced = t.pieces.countP fun line => (m.imprintLine line).isSome := rfl

/-- Imprinting keeps lines one after the other. -/
theorem lined_map_lineAfter (hm : m.Unbroken) (t : Text) :
    Text.Lined (t.pieces.map m.lineAfter) := by
  refine (Text.lined_pieces t).map fun p _ => ?_
  rcases m.lineAfter_cases p with ⟨e, -⟩ | ⟨f, v, hv, e⟩
  · exact .inl e
  · exact .inr (e ▸ Field.isEnded_line (hm f v hv))

/-- **Imprinting keeps the lines apart.**  The lines of the imprinted text are those of the text,
each of them imprinted. -/
theorem pieces_imprint (hm : m.Unbroken) (t : Text) :
    (m.imprint t).text.pieces = t.pieces.map m.lineAfter := by
  rw [imprint_text, Text.pieces_flatten (lined_map_lineAfter hm t)]

/-- `new` is `old`, line by line, but for the lines that declare a field of the metadata: these have
become declarations, and nothing else in `new` declares a field. -/
structure Redeclared (m : Metadata) (old new : List Text) : Prop where
  length   : new.length = old.length
  line     : ∀ (i : Nat) (l : Text), old[i]? = some l → ∃ l', new[i]? = some l' ∧
    ((∀ f, ¬ m.Declares l f) → l' = l) ∧ ((∃ f, m.Declares l f) → m.IsDeclaration l')
  declared : ∀ l ∈ new, (∃ f, m.Declares l f) → m.IsDeclaration l

theorem redeclared_imprint (hm : m.Unbroken) (t : Text) :
    m.Redeclared t.pieces (m.imprint t).text.pieces := by
  rw [pieces_imprint hm]
  refine ⟨List.length_map _, fun i l hl => ⟨m.lineAfter l, ?_, lineAfter_eq_self, ?_⟩, ?_⟩
  · rw [List.getElem?_map, hl, Option.map_some]
  · rintro ⟨f, hf⟩
    exact isDeclaration_lineAfter hf
  · rintro _ hl ⟨f, hf⟩
    obtain ⟨l, -, rfl⟩ := List.mem_map.1 hl
    exact isDeclaration_of_declares hf

end Metadata

end Imprint
