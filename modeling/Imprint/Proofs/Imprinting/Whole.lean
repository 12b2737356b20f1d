import Imprint.Proofs.Imprinting.Lines

/-!
# Imprinting — a text and its parts

A line is imprinted by itself, whatever its neighbours are, and no opening reaches over the end of a
line.  So imprinting a text is imprinting its parts, as long as it is cut between lines; and which
texts it leaves alone can be told by a search in the whole.

* `imprint_append`: a text after a newline is imprinted by itself, and so is each of its lines.
* `imprint_replaced_cases`: the lines that are replaced are those that declare a field; there are
  none exactly if no opening stands anywhere in the text, and then the text is kept.

Neither asks anything of the values, which may hold newlines and openings themselves.
-/

namespace Imprint.Metadata

variable {m : Metadata} {line s : Text}

/-! ### One part after the other -/

/-- Lines one after the other are imprinted one after the other. -/
theorem imprint_flatten (m : Metadata) {ps : List Text} (h : Text.Lined ps) :
    (m.imprint ps.flatten).text = (ps.map m.lineAfter).flatten := by
  rw [imprint_text, Text.pieces_flatten h]

theorem imprint_text_append (m : Metadata) (hs : s = [] ∨ s.getLast? = some '\n') (t : Text) :
    (m.imprint (s ++ t)).text = (m.imprint s).text ++ (m.imprint t).text := by
  rw [imprint_text, Text.pieces_append hs, List.map_append, List.flatten_append, ← imprint_text,
    ← imprint_text]

theorem imprint_replaced_append (m : Metadata) (hs : s = [] ∨ s.getLast? = some '\n') (t : Text) :
    (m.imprint (s ++ t)).replaced = (m.imprint s).replaced + (m.imprint t).replaced := by
  rw [imprint_replaced, Text.pieces_append hs, List.countP_append, ← imprint_replaced,
    ← imprint_replaced]

/-- The first line of a text is imprinted by itself. -/
theorem imprint_text_of_pieces {t : Text} {rest : List Text} (h : t.pieces = line :: rest) :
    (m.imprint t).text = m.lineAfter line ++ (m.imprint rest.flatten).text := by
  have hl : Text.Lined (line :: rest) := h ▸ Text.lined_pieces t
  rw [imprint_flatten m hl.tail, imprint_text, h, List.map_cons, List.flatten_cons]

/-- **Part by part.**  After a text that is empty or ends in a newline, any other text is imprinted as
if it stood alone, and the replaced lines of the two add up, whatever the values are.  So what
becomes of a line does not depend on the lines around it. -/
theorem imprint_append (m : Metadata) (hs : s = [] ∨ s.getLast? = some '\n') (t : Text) :
    (m.imprint (s ++ t)).text = (m.imprint s).text ++ (m.imprint t).text ∧
      (m.imprint (s ++ t)).replaced = (m.imprint s).replaced + (m.imprint t).replaced ∧
      ∀ line rest, t.pieces = line :: rest → (m.imprint (s ++ t)).text =
        (m.imprint s).text ++ m.lineAfter line ++ (m.imprint rest.flatten).text := by
  refine ⟨imprint_text_append m hs t, imprint_replaced_append m hs t, fun line rest h => ?_⟩
  rw [imprint_text_append m hs t, imprint_text_of_pieces h, List.append_assoc]

/-- The values hold newlines and each other's openings, and the last line is not ended. -/
theorem imprint_append_unended :
    let m : Metadata := ⟨"1\n2".toList, Field.version.opening, "\n".toList,
      some (Field.buildString.opening ++ ['\n'])⟩
    let s := "goVersion   = \"\r\n\nversion     = \"0\"\n".toList
    let t := "\nbuildDate   = \"version     = \"".toList
    (s = [] ∨ s.getLast? = some '\n') ∧
      (m.imprint (s ++ t)).text = (m.imprint s).text ++ (m.imprint t).text ∧
      (m.imprint (s ++ t)).replaced = (m.imprint s).replaced + (m.imprint t).replaced := by
  intro m s t
  have hs : s = [] ∨ s.getLast? = some '\n' := .inr (by decide)
  obtain ⟨htext, hreplaced, -⟩ := imprint_append m hs t
  exact ⟨hs, htext, hreplaced⟩

/-! ### A search in the whole -/

theorem isSome_declared?_iff : (m.declared? line).isSome ↔ ∃ f, m.Declares line f := by
  rw [Option.isSome_iff_ne_none, ne_eq, declared?_eq_none_iff, not_forall_not]

instance (m : Metadata) (line : Text) : Decidable (∃ f, m.Declares line f) :=
  decidable_of_iff _ isSome_declared?_iff

theorem isSome_imprintLine_iff : (m.imprintLine line).isSome ↔ ∃ f, m.Declares line f := by
  rw [Option.isSome_iff_ne_none, ne_eq, imprintLine_eq_none_iff, not_forall_not]

/-- The replaced lines are those that declare a field. -/
theorem imprint_replaced_eq_countP (m : Metadata) (t : Text) :
    (m.imprint t).replaced = t.pieces.countP fun line => ∃ f, m.Declares line f := by
  rw [imprint_replaced]
  refine List.countP_congr fun line _ => ?_
  rw [isSome_imprintLine_iff, decide_eq_true_eq]

/-- What a text declares is what its lines declare. -/
theorem declares_iff_exists_piece {f : Field} (t : Text) :
    m.Declares t f ↔ ∃ line ∈ t.pieces, m.Declares line f := by
  rw [Declares, Text.infix_iff_exists_piece f.opening_ne_nil f.newline_not_mem_opening t]
  simp only [Declares, and_left_comm, exists_and_left]

theorem imprint_replaced_eq_zero_iff (m : Metadata) (t : Text) :
    (m.imprint t).replaced = 0 ↔ ∀ f, ¬ m.Declares t f := by
  rw [imprint_replaced_eq_countP, List.countP_eq_zero]
  simp only [decide_eq_true_eq]
  constructor
  · intro h f hd
    obtain ⟨line, hl, hd⟩ := (declares_iff_exists_piece t).1 hd
    exact h line hl ⟨f, hd⟩
  · rintro h line hl ⟨f, hd⟩
    exact h f ((declares_iff_exists_piece t).2 ⟨line, hl, hd⟩)

/-- A text that declares nothing is kept. -/
theorem imprint_text_eq_self {t : Text} (h : ∀ f, ¬ m.Declares t f) : (m.imprint t).text = t := by
  have hlines : ∀ line ∈ t.pieces, m.lineAfter line = line := fun line hl =>
    lineAfter_eq_self fun f hd => h f ((declares_iff_exists_piece t).2 ⟨line, hl, hd⟩)
  rw [imprint_text, List.map_congr_left hlines, List.map_id', Text.flatten_pieces]

/-- **How many lines are replaced.**  As many as hold the opening of a field of the metadata.  There
is none exactly if no such opening stands anywhere in the text, lines aside; and then the imprinted
text is the text, to the last character. -/
theorem imprint_replaced_cases (m : Metadata) (t : Text) :
    (m.imprint t).replaced = t.pieces.countP (fun line => ∃ f, m.Declares line f) ∧
      ((m.imprint t).replaced = 0 ↔ ∀ f, (m.value? f).isSome → ¬ f.opening <:+: t) ∧
      ((m.imprint t).replaced = 0 → (m.imprint t).text = t) := by
  have hzero := imprint_replaced_eq_zero_iff m t
  refine ⟨imprint_replaced_eq_countP m t, hzero.trans ?_, fun h => imprint_text_eq_self (hzero.1 h)⟩
  simp only [Declares, not_and]

end Imprint.Metadata
