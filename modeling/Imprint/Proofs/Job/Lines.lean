import Imprint.Proofs.Imprinting.Lines
import Imprint.Proofs.Job.Steps

/-!
# Job — the lines of the target

If the version of a job holds no newline, no value of its metadata does, whatever the toolchain
answers, and a draft of the job is the target line by line.

* `unbroken_of_draft`, `unbroken_of_run`: no value that is imprinted holds a newline.
* `draft_lines`: a line that declares nothing stays, and every other becomes a declaration.
-/

namespace Imprint.Job

open Files (Tree)

variable {j : Job} {t : Tree} {today : Date} {d : Draft}

/-- No value that a draft imprints holds a newline, unless the version does. -/
theorem unbroken_of_draft (hv : ∀ v, j.version = some v → '\n' ∉ v)
    (h : j.draft t today = .ok d) : d.metadata.Unbroken := by
  intro f v hf
  by_cases hfv : f = .version
  · subst hfv
    exact hv v ((version_of_draft h).symm.trans hf)
  · exact (gathered_of_draft h).newline_not_mem hfv hf

/-- No value that a run imprints holds a newline, unless the version does. -/
theorem unbroken_of_run {m : Metadata} {t' : Tree} (hv : ∀ v, j.version = some v → '\n' ∉ v)
    (h : j.run t today = (.ok m, t')) : m.Unbroken := by
  cases hd : j.draft t today with
  | error e =>
      rw [run_of_draft_error hd] at h
      cases h
  | ok d =>
      rcases run_of_draft hd with ⟨t'', e⟩ | ⟨e, -⟩
      · rw [e] at h
        cases h
        exact unbroken_of_draft hv hd
      · rw [e] at h
        cases h

/-- **What becomes of the lines of the target.**  Where a job whose version holds no newline is
drafted, no value of its metadata holds one, and the imprinted target has the lines of the target.
A line that declares no field of the metadata is the same as before, character for character, and
any other has become the declaration of some field, so that no declaration of another value is
left. -/
theorem draft_lines (hv : ∀ v, j.version = some v → '\n' ∉ v) (h : j.draft t today = .ok d) :
    (∀ f v, d.metadata.value? f = some v → '\n' ∉ v) ∧
      ∃ text, t.readText j.target = .ok text ∧
        d.metadata.Redeclared text.pieces d.imprinted.text.pieces := by
  have hu := unbroken_of_draft hv h
  obtain ⟨text, hr, hi⟩ := imprinted_of_draft h
  refine ⟨hu, text, hr, ?_⟩
  rw [hi]
  exact Metadata.redeclared_imprint hu text

/-- A target with a line that ends in a carriage return, an empty one, an indented one, and a last
one that is not ended and declares two fields. -/
theorem draft_lines_unended :
    let lines := ["a\r\n".toList, ['\n'], "\tgoVersion   = \"old\"\r\n".toList,
      "buildString = \"version     = \"".toList]
    let lines' := ["a\r\n".toList, ['\n'], "\tgoVersion   = \"go version go1.21.0\"\n".toList,
      "\tbuildString = \"0x000003\"\n".toList]
    let t : Tree := ⟨[([], ⟨.all, .directory⟩),
      ([[108]], ⟨.readWrite, .octets (Text.encode ['x', '\n', 'y'])⟩),
      ([[116]], ⟨.readWrite, .octets (Text.encode lines.flatten)⟩)], [], []⟩
    let j : Job := ⟨[108], [116], some "1.2".toList, .fixed "go version go1.21.0 x\n".toList, none⟩
    (∀ v, j.version = some v → '\n' ∉ v) ∧ ∃ d, j.draft t ⟨2024, 3, 9, by decide⟩ = .ok d ∧
      (∀ f v, d.metadata.value? f = some v → '\n' ∉ v) ∧
        d.imprinted.text.pieces = lines' ∧ d.metadata.Redeclared lines lines' := by
  intro lines lines' t j
  have hv : ∀ v, j.version = some v → '\n' ∉ v := by
    intro v h
    cases h
    decide
  obtain ⟨d, hd⟩ : ∃ d, j.draft t ⟨2024, 3, 9, by decide⟩ = .ok d := ⟨_, rfl⟩
  obtain ⟨hu, text, hr, hlines⟩ := draft_lines hv hd
  have htext : t.readText j.target = .ok lines.flatten := rfl
  obtain rfl : lines.flatten = text := Except.ok.inj (htext.symm.trans hr)
  have hold : Text.pieces lines.flatten = lines := by decide
  have hnew : d.imprinted.text.pieces = lines' := by
    cases hd
    decide +kernel
  rw [hold, hnew] at hlines
  exact ⟨hv, d, hd, hu, hnew, hlines⟩

end Imprint.Job
