import Imprint.Job
import Imprint.Proofs.Files.Kept
import Imprint.Proofs.Metadata.Gathered

/-!
# Job — what its steps establish

Where a draft is made, the log was counted, the toolchain answered and the target was read
(`draft_eq_ok`); its metadata is gathered, with the version of the job, and its text is that of the
target, imprinted.  A run ends in one of two ways (`run_cases`): with an error and the tree it
began with, or with metadata and a tree in which the target alone is overwritten.  A job that can
be drafted fails only if its target may not be written to (`run_of_draft`).
-/

namespace Imprint.Job

open Files (Tree)

variable {j : Job} {t t' : Tree} {today : Date} {d : Draft} {target : Bytes} {text : Text}

/-- The metadata of a job is gathered, whatever the log and the toolchain say. -/
theorem gathered_metadata (j : Job) (today : Date) (lines : UInt64) (answer : Text) :
    (j.metadata today lines answer).Gathered :=
  Metadata.gathered_gather lines answer (j.date.getD today) j.version

theorem readTarget_eq_ok (h : readTarget t target = .ok text) : t.readText target = .ok text := by
  unfold readTarget at h
  split at h
  case h_1 text' hr => cases h; exact hr
  case h_2 => cases h

theorem commit_eq_ok (h : commit t target text = .ok t') :
    t.overwrite target text.encode = .ok t' := by
  unfold commit at h
  split at h
  case h_1 t'' ho => cases h; exact ho
  case h_2 => cases h

theorem commit_eq_error {e : Error} (h : commit t target text = .error e) :
    ∃ e', e = .access target e' ∧ t.overwrite target text.encode = .error e' := by
  unfold commit at h
  split at h
  case h_1 => cases h
  case h_2 e' ho => cases h; exact ⟨e', rfl, ho⟩

/-! ### Drafts -/

/-- Where a draft is made, every step before it succeeded. -/
theorem draft_eq_ok (h : j.draft t today = .ok d) :
    ∃ lines answer text, countLog t j.log = .ok lines ∧ ask t j.probe = .ok answer ∧
      t.readText j.target = .ok text ∧
      d = ⟨j.metadata today lines answer, (j.metadata today lines answer).imprint text⟩ := by
  unfold draft at h
  cases hl : countLog t j.log with
  | error e => rw [hl] at h; cases h
  | ok lines =>
      cases ha : ask t j.probe with
      | error e => rw [hl, ha] at h; cases h
      | ok answer =>
          cases hr : readTarget t j.target with
          | error e => rw [hl, ha, hr] at h; cases h
          | ok text =>
              rw [hl, ha, hr] at h
              cases h
              exact ⟨lines, answer, text, rfl, rfl, readTarget_eq_ok hr, rfl⟩

theorem gathered_of_draft (h : j.draft t today = .ok d) : d.metadata.Gathered := by
  obtain ⟨lines, answer, -, -, -, -, rfl⟩ := draft_eq_ok h
  exact gathered_metadata j today lines answer

theorem version_of_draft (h : j.draft t today = .ok d) : d.metadata.version = j.version := by
  obtain ⟨-, -, -, -, -, -, rfl⟩ := draft_eq_ok h
  rfl

/-- The text of a draft is the target's, imprinted with the metadata of the draft. -/
theorem imprinted_of_draft (h : j.draft t today = .ok d) :
    ∃ text, t.readText j.target = .ok text ∧ d.imprinted = d.metadata.imprint text := by
  obtain ⟨-, -, text, -, -, hr, rfl⟩ := draft_eq_ok h
  exact ⟨text, hr, rfl⟩

/-! ### Runs -/

/-- **A run changes nothing or the target alone.**  If it fails, the tree is the one before.  If it
answers with metadata, the target could be read as text, and what it holds afterwards is that text,
imprinted with the metadata. -/
theorem run_cases (j : Job) (t : Tree) (today : Date) :
    (∃ e, j.run t today = (.error e, t)) ∨
      ∃ m text t', j.run t today = (.ok m, t') ∧ t.readText j.target = .ok text ∧
        t.Overwritten j.target (m.imprint text).text.encode t' := by
  unfold run
  cases hd : j.draft t today with
  | error e => exact .inl ⟨e, rfl⟩
  | ok d =>
      cases hc : commit t j.target d.imprinted.text with
      | error e => exact .inl ⟨e, by simp only [hc]⟩
      | ok t' =>
          obtain ⟨text, hr, hi⟩ := imprinted_of_draft hd
          obtain ⟨old, ho, -⟩ := Tree.readText_eq_ok hr
          refine .inr ⟨d.metadata, text, t', by simp only [hc], hr, ?_⟩
          rw [← hi]
          exact Tree.overwritten_of_overwrite ho (commit_eq_ok hc)

/-- A job that cannot be drafted cannot be run, for the same reason. -/
theorem run_of_draft_error {e : Error} (h : j.draft t today = .error e) :
    j.run t today = (.error e, t) := by
  rw [run, h]

/-- **A job that can be drafted can be run, unless its target may not be written to.** -/
theorem run_of_draft (h : j.draft t today = .ok d) :
    (∃ t', j.run t today = (.ok d.metadata, t')) ∨
      (j.run t today = (.error (.access j.target .permissionDenied), t) ∧
        ∃ l n, t.find j.target = .ok (l, n) ∧ n.mode.write = false) := by
  simp only [run, h]
  cases hc : commit t j.target d.imprinted.text with
  | ok t' => exact .inl ⟨t', rfl⟩
  | error e =>
      obtain ⟨e', rfl, ho⟩ := commit_eq_error hc
      obtain ⟨text, hr, -⟩ := imprinted_of_draft h
      obtain ⟨old, hold, -⟩ := Tree.readText_eq_ok hr
      obtain ⟨rfl, hw⟩ := Tree.overwrite_eq_error hold ho
      exact .inr ⟨rfl, hw⟩

end Imprint.Job
