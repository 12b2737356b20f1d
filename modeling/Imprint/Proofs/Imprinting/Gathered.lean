import Imprint.Proofs.Imprinting.Lines
import Imprint.Proofs.Metadata.Gathered

/-!
# Imprinting — gathered metadata

Each field is tried on the line as the fields before it have left it, so one replacement could set
off the next.  With gathered metadata none does: a value, with the quote after it, holds no opening
of a field tried later, and so the declared field has the last word (`Gathered.imprintLine_eq`).

* `Gathered.imprintLine_cases`: a line is left alone, or it becomes the declaration of its declared
  field, which declares no field tried later.
-/

namespace Imprint.Metadata

variable {m : Metadata} {line v : Text} {f g : Field}

/-- Gathered metadata lets the declared field have the last word, though its values may hold the
openings of fields tried earlier. -/
theorem Gathered.imprintLine_eq (h : m.Gathered) (hd : m.declared? line = some f)
    (hv : m.value? f = some v) : m.imprintLine line = some (f.line v) :=
  imprintLine_eq_line hd hv fun _ hg _ => h.not_later_opening hg hv

theorem Gathered.lineAfter_eq (h : m.Gathered) (hd : m.declared? line = some f)
    (hv : m.value? f = some v) : m.lineAfter line = f.line v :=
  lineAfter_eq_of_imprintLine (h.imprintLine_eq hd hv)

/-- A declaration of a gathered value declares no field tried later. -/
theorem Gathered.not_declares_line (h : m.Gathered) (hv : m.value? f = some v)
    (hfg : f.Before g) : ¬ m.Declares (f.line v) g := fun hd =>
  h.not_later_opening hfg hv ((Field.opening_infix_line_iff hfg.ne.symm v).1 hd.2)

/-- **One field for each line.**  What gathered metadata makes of a line is decided by the fields
that the line declares.  If there is none, the line is left alone.  Otherwise the one tried first
replaces it by its own declaration, and no field tried later finds its opening there. -/
theorem Gathered.imprintLine_cases (h : m.Gathered) (line : Text) :
    ((∀ f, ¬ m.Declares line f) ∧ m.imprintLine line = none) ∨
      ∃ f v, m.value? f = some v ∧ f.opening <:+: line ∧ (∀ g, g.Before f → ¬ m.Declares line g) ∧
        m.imprintLine line = some (f.line v) ∧ ∀ g, f.Before g → ¬ m.Declares (f.line v) g := by
  cases hd : m.declared? line with
  | none => exact .inl ⟨declared?_eq_none_iff.1 hd, imprintLine_eq_none hd⟩
  | some f =>
      obtain ⟨⟨-, ho⟩, hb⟩ := declared?_eq_some_iff.1 hd
      obtain ⟨v, hv⟩ := exists_value? hd
      exact .inr ⟨f, v, hv, ho, hb, h.imprintLine_eq hd hv, fun g => h.not_declares_line hv⟩

/-- The answer and the version hold openings themselves, and the line declares three fields; what
comes out is the declaration of the toolchain. -/
theorem Gathered.imprintLine_cases_crowded :
    let m := gather 297 "go version     = \" buildString = \"1 linux/amd64\n".toList
      ⟨2024, 3, 9, by decide⟩ (some (Field.buildDate.opening ++ Field.version.opening))
    let line := Field.version.opening ++ Field.toolchain.opening ++ Field.buildDate.opening
    let line' := "\tgoVersion   = \"go version = \" buildString = \"1\"\n".toList
    m.Gathered ∧ m.imprintLine line = some line' ∧
      ∀ g, Field.Before .toolchain g → ¬ m.Declares line' g := by
  intro m line line'
  have hg : m.Gathered := gathered_gather ..
  have hd : m.Declares line .toolchain := by decide
  obtain ⟨hnone, -⟩ | ⟨f, v, hv, ho, hfirst, hline, hlater⟩ := hg.imprintLine_cases line
  · exact absurd hd (hnone _)
  · cases f with
    | buildString => exact absurd (Text.occursIn_iff.2 ho) (by decide)
    | buildDate | version => exact absurd hd (hfirst _ (by decide))
    | toolchain =>
        have hl : Field.toolchain.line v = line' := by
          cases hv
          decide
        rw [hl] at hline hlater
        exact ⟨hg, hline, hlater⟩

end Imprint.Metadata
