import Imprint.Imprinting
import Imprint.Proofs.Metadata.Opening

/-!
# Imprinting — the field that a line declares

A line *declares* the fields that the metadata has and whose opening stands in it.  Of these only
the one tried first, `declared?`, counts: it replaces the line, and what is tried after it no longer
sees the line but the replacement.

* A line is left alone exactly if it declares no field (`imprintLine_eq_none_iff`).
* Two lines with the same declared field have the same replacement (`imprintLine_congr`).
* A replacement is the declaration of some field (`exists_imprintLine`), and of the declared field
  itself unless its value holds the opening of a later one (`imprintLine_eq_line`).
-/

namespace Imprint.Metadata

variable {m : Metadata} {line v : Text} {f : Field}

/-! ### Declared fields -/

/-- Only the version may be absent. -/
theorem isSome_value? (m : Metadata) {f : Field} (hf : f ≠ .version) : (m.value? f).isSome := by
  cases f <;> first | rfl | exact absurd rfl hf

/-- The metadata has the field, and its opening stands in the line. -/
def Declares (m : Metadata) (line : Text) (f : Field) : Prop :=
  (m.value? f).isSome ∧ f.opening <:+: line

instance (m : Metadata) (line : Text) (f : Field) : Decidable (m.Declares line f) :=
  decidable_of_iff ((m.value? f).isSome ∧ Text.occursIn f.opening line = true)
    (and_congr_right fun _ => Text.occursIn_iff)

/-- Of the fields that the line declares, the one tried first. -/
def declared? (m : Metadata) (line : Text) : Option Field :=
  Field.all.find? fun f => m.Declares line f

theorem declared?_eq_none_iff : m.declared? line = none ↔ ∀ f, ¬ m.Declares line f := by
  simp [declared?, Field.mem_all]

theorem declared?_eq_some_iff :
    m.declared? line = some f ↔ m.Declares line f ∧ ∀ g, g.Before f → ¬ m.Declares line g := by
  rw [declared?, List.find?_eq_some_iff_append, decide_eq_true_eq]
  refine and_congr_right fun _ => ⟨?_, fun h => ?_⟩
  · rintro ⟨before, after, e, h⟩ g hg
    simpa using h g (hg.mem e)
  · obtain ⟨before, after, e⟩ := List.append_of_mem (Field.mem_all f)
    exact ⟨before, after, e, fun g hg => by simpa using h g (Field.before_of_mem_left e hg)⟩

theorem declares_of_declared? (h : m.declared? line = some f) : m.Declares line f :=
  (declared?_eq_some_iff.1 h).1

/-- The declared field has a value. -/
theorem exists_value? (h : m.declared? line = some f) : ∃ v, m.value? f = some v :=
  Option.isSome_iff_exists.1 (declares_of_declared? h).1

/-- What declares a field has a declared field, with its value. -/
theorem Declares.exists_declared? (h : m.Declares line f) :
    ∃ g w, m.declared? line = some g ∧ m.value? g = some w := by
  obtain ⟨g, hg⟩ := Option.ne_none_iff_exists'.1 fun hno => declared?_eq_none_iff.1 hno f h
  obtain ⟨w, hw⟩ := exists_value? hg
  exact ⟨g, w, hg, hw⟩

/-! ### One field after the other -/

/-- A field that the line as it stands does not declare changes nothing. -/
theorem declare_eq_self (now : Option Text) (h : ¬ m.Declares (now.getD line) f) :
    m.declare line now f = now := by
  unfold declare
  split
  case h_1 v hv =>
    refine if_neg fun ho => h ⟨?_, Text.occursIn_iff.1 ho⟩
    rw [hv]; rfl
  case h_2 => rfl

/-- A field that the line as it stands declares replaces it. -/
theorem declare_eq_line (now : Option Text) (ho : f.opening <:+: now.getD line)
    (hv : m.value? f = some v) : m.declare line now f = some (f.line v) := by
  rw [declare, hv]
  exact if_pos (Text.occursIn_iff.2 ho)

theorem foldl_declare_eq_self (now : Option Text) :
    ∀ {fs : List Field}, (∀ g ∈ fs, ¬ m.Declares (now.getD line) g) →
      fs.foldl (m.declare line) now = now
  | [],      _ => rfl
  | f :: fs, h => by
      rw [List.foldl_cons, declare_eq_self now (h f List.mem_cons_self)]
      exact foldl_declare_eq_self now fun g hg => h g (List.mem_cons_of_mem f hg)

/-- Once a line is replaced, what it was does not matter. -/
theorem foldl_declare_some (line line' : Text) :
    ∀ (fs : List Field) (now : Text),
      fs.foldl (m.declare line) (some now) = fs.foldl (m.declare line') (some now)
  | [],      _   => rfl
  | f :: fs, now => by
      -- both see the same replacement, and what they make of it is a replacement or this one
      have h : m.declare line (some now) f = m.declare line' (some now) f := rfl
      rw [List.foldl_cons, List.foldl_cons, ← h]
      by_cases hd : m.Declares now f
      · obtain ⟨v, hv⟩ := Option.isSome_iff_exists.1 hd.1
        rw [declare_eq_line (some now) hd.2 hv]
        exact foldl_declare_some line line' fs (f.line v)
      · rw [declare_eq_self (some now) hd]
        exact foldl_declare_some line line' fs now

/-- What the fields of a list do to a line, from its declared field on. -/
theorem imprintLine_eq_foldl {before after : List Field} (e : Field.all = before ++ f :: after)
    (hd : m.declared? line = some f) (hv : m.value? f = some v) :
    m.imprintLine line = after.foldl (m.declare line) (some (f.line v)) := by
  obtain ⟨hf, hb⟩ := declared?_eq_some_iff.1 hd
  rw [imprintLine, e, List.foldl_append, List.foldl_cons,
    foldl_declare_eq_self none fun g hg => hb g (Field.before_of_mem_left e hg),
    declare_eq_line none hf.2 hv]

/-! ### What becomes of a line -/

/-- A line that declares no field is left alone. -/
theorem imprintLine_eq_none (h : m.declared? line = none) : m.imprintLine line = none :=
  foldl_declare_eq_self none fun g _ => declared?_eq_none_iff.1 h g

/-- **Only the declared field counts.** -/
theorem imprintLine_congr {line line' : Text} (h : m.declared? line = m.declared? line') :
    m.imprintLine line = m.imprintLine line' := by
  cases hd : m.declared? line with
  | none => rw [imprintLine_eq_none hd, imprintLine_eq_none (h ▸ hd)]
  | some f =>
      obtain ⟨v, hv⟩ := exists_value? hd
      obtain ⟨before, after, e⟩ := List.append_of_mem (Field.mem_all f)
      rw [imprintLine_eq_foldl e hd hv, imprintLine_eq_foldl e (h ▸ hd) hv]
      exact foldl_declare_some line line' after (f.line v)

/-- A declared field whose value holds no opening of a later field has the last word. -/
theorem imprintLine_eq_line (hd : m.declared? line = some f) (hv : m.value? f = some v)
    (hl : ∀ g, f.Before g → (m.value? g).isSome → ¬ g.opening <:+: v ++ ['"']) :
    m.imprintLine line = some (f.line v) := by
  obtain ⟨before, after, e⟩ := List.append_of_mem (Field.mem_all f)
  rw [imprintLine_eq_foldl e hd hv]
  refine foldl_declare_eq_self (some (f.line v)) fun g hg hgd => ?_
  have hfg := Field.before_of_mem_right e hg
  exact hl g hfg hgd.1 ((Field.opening_infix_line_iff hfg.ne.symm v).1 hgd.2)

/-- A line is the declaration of some field that the metadata has. -/
def IsDeclaration (m : Metadata) (line : Text) : Prop :=
  ∃ f v, m.value? f = some v ∧ line = f.line v

theorem isDeclaration_of_foldl {line : Text} :
    ∀ {fs : List Field} {now : Text}, m.IsDeclaration now → ∃ r : Text,
      fs.foldl (m.declare line) (some now) = some r ∧ m.IsDeclaration r
  | [],      now, h => ⟨now, rfl, h⟩
  | f :: fs, now, h => by
      rw [List.foldl_cons]
      by_cases hd : m.Declares now f
      · obtain ⟨v, hv⟩ := Option.isSome_iff_exists.1 hd.1
        rw [declare_eq_line (some now) hd.2 hv]
        exact isDeclaration_of_foldl ⟨f, v, hv, rfl⟩
      · rw [declare_eq_self (some now) hd]
        exact isDeclaration_of_foldl h

/-- **A line that declares a field is replaced by a declaration.** -/
theorem exists_imprintLine (h : m.Declares line f) :
    ∃ r, m.imprintLine line = some r ∧ m.IsDeclaration r := by
  obtain ⟨g, w, hd, hw⟩ := h.exists_declared?
  obtain ⟨before, after, e⟩ := List.append_of_mem (Field.mem_all g)
  rw [imprintLine_eq_foldl e hd hw]
  exact isDeclaration_of_foldl ⟨g, w, hw, rfl⟩

theorem imprintLine_eq_none_iff : m.imprintLine line = none ↔ ∀ f, ¬ m.Declares line f := by
  refine ⟨fun h f hf => ?_, fun h => imprintLine_eq_none (declared?_eq_none_iff.2 h)⟩
  obtain ⟨r, hr, -⟩ := exists_imprintLine hf
  rw [h] at hr
  cases hr

end Imprint.Metadata
