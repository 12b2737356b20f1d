import Imprint.Proofs.Imprinting.Version
import Imprint.Proofs.Job.Steps

/-!
# Job — with a version and without

The version of a job has no part in counting the log, asking the toolchain or reading the target.
So two jobs that differ in their versions alone are drafted both or fail both, for the same reason
(`draft_withVersion_cases`), and their drafts differ as the imprinting of one text with a version and
without it (`draft_withVersion`).
-/

namespace Imprint.Job

open Files (Tree)

/-- Whatever the version of a job, its draft fails for the same reason or is made of the same
facts. -/
theorem draft_withVersion_cases (j : Job) (t : Tree) (today : Date) :
    (∃ e, ∀ version, (j.withVersion version).draft t today = .error e) ∨
      ∃ lines answer text, t.readText j.target = .ok text ∧ ∀ version,
        let m := (j.withVersion version).metadata today lines answer
        (j.withVersion version).draft t today = .ok ⟨m, m.imprint text⟩ := by
  cases hl : countLog t j.log with
  | error e => exact .inl ⟨e, fun version => by simp only [draft, withVersion, hl]; rfl⟩
  | ok lines =>
      cases ha : ask t j.probe with
      | error e => exact .inl ⟨e, fun version => by simp only [draft, withVersion, hl, ha]; rfl⟩
      | ok answer =>
          cases hr : readTarget t j.target with
          | error e =>
              exact .inl ⟨e, fun version => by simp only [draft, withVersion, hl, ha, hr]; rfl⟩
          | ok text =>
              refine .inr ⟨lines, answer, text, readTarget_eq_ok hr, fun version => ?_⟩
              simp only [draft, withVersion, hl, ha, hr]
              rfl

/-- An empty version counts as none, and any other as itself. -/
theorem version_withVersion {v : Text} (hv : v ≠ []) (j : Job) :
    (j.withVersion (some v)).version = some v := by
  simp [withVersion, hv]

/-- **What a version changes.**  A job with a version that is not empty and the same job without one
fail for the same reason, or both can be drafted.  Then their metadata is the same but for the
version, and their texts are the same but for the lines of the target that hold the opening of the
version and no other: each of these becomes the declaration of the version with it and stays
without it, and by their number the replaced lines are more with it.  An empty version is none. -/
theorem draft_withVersion (j : Job) (t : Tree) (today : Date) {v : Text} (hv : v ≠ []) :
    ((∃ e, (j.withVersion none).draft t today = .error e ∧
        (j.withVersion (some v)).draft t today = .error e) ∨
      ∃ d d' text, (j.withVersion none).draft t today = .ok d ∧
        (j.withVersion (some v)).draft t today = .ok d' ∧ t.readText j.target = .ok text ∧
        d.metadata.version = none ∧ d'.metadata = { d.metadata with version := some v } ∧
        d.imprinted = d.metadata.imprint text ∧ d'.imprinted = d'.metadata.imprint text ∧
        Metadata.AddsVersion d.metadata d'.metadata v text) ∧
      j.withVersion (some []) = j.withVersion none := by
  refine ⟨?_, rfl⟩
  rcases draft_withVersion_cases j t today with ⟨e, he⟩ | ⟨lines, answer, text, hr, hd⟩
  · exact .inl ⟨e, he none, he (some v)⟩
  · have hm : (j.withVersion (some v)).metadata today lines answer =
        ((j.withVersion none).metadata today lines answer).withVersion v := by
      simp only [metadata, version_withVersion hv, Metadata.withVersion]
      rfl
    refine .inr ⟨_, _, text, hd none, hd (some v), hr, rfl, hm, rfl, rfl, ?_⟩
    simp only [hm]
    exact (gathered_metadata _ today lines answer).addsVersion rfl v text

/-- A version that holds a newline and the openings of other fields, where one line declares the
version alone and another declares the date too. -/
theorem draft_withVersion_crowded :
    let text := "version     = \"\r\nbuildDate   = \"version     = \"\nend".toList
    let t : Tree := ⟨[([], ⟨.all, .directory⟩),
      ([[108]], ⟨.readWrite, .octets (Text.encode ['x', '\n', 'y'])⟩),
      ([[116]], ⟨.readWrite, .octets (Text.encode text)⟩)], [], []⟩
    let j : Job := ⟨[108], [116], some "0.9".toList, .fixed "go version go1.21.0 x\n".toList, none⟩
    let today : Date := ⟨2024, 3, 9, by decide⟩
    let v := "1\ngoVersion   = \"".toList
    v ≠ [] ∧ ∃ d d', (j.withVersion none).draft t today = .ok d ∧
      (j.withVersion (some v)).draft t today = .ok d' ∧
      d.imprinted.text = "version     = \"\r\n\tbuildDate   = \"2024-03-09\"\nend".toList ∧
      d'.imprinted.text = ("\tversion     = \"1\ngoVersion   = \"\"\n".toList ++
        "\tbuildDate   = \"2024-03-09\"\nend".toList) ∧
      d'.imprinted.replaced = d.imprinted.replaced + 1 := by
  intro text t j today v
  have hv : v ≠ [] := by decide
  have hok : ∃ d, (j.withVersion none).draft t today = .ok d := ⟨_, rfl⟩
  obtain ⟨⟨e, he, -⟩ | ⟨d, d', text', hd, hd', hr, -, -, hi, hi', hadds⟩, -⟩ :=
    draft_withVersion j t today hv
  · obtain ⟨d, hd⟩ := hok
    cases he.symm.trans hd
  · have htext : t.readText j.target = .ok text := rfl
    obtain rfl : text = text' := Except.ok.inj (htext.symm.trans hr)
    have hcount : (Text.pieces text).countP (fun l => Metadata.IsVersionLine l) = 1 := by decide
    have hplus := hadds.replaced
    rw [hcount, ← hi, ← hi'] at hplus
    refine ⟨hv, d, d', hd, hd', ?_, ?_, hplus⟩
    · cases hd
      decide +kernel
    · cases hd'
      decide +kernel

end Imprint.Job
