import Imprint.Proofs.Command.Errand
import Imprint.Proofs.Command.Switches

/-!
# Command — dry runs

A dry run drafts the job that would otherwise be run, and reports what is drafted.

* `Request.asDryRun_cases`: if there is no draft, the request and its dry run fail alike.  If there
  is one, the dry run succeeds, and the request does so with the same metadata, unless the target
  may not be written to.
* `invoke_dryRun`: so an invocation and the same one with `--dry-run` in front agree in what they
  print and in the status they end with, but for a target that can be read and not be written to.
-/

namespace Imprint.Command

open Files (Tree)

namespace Request

variable {r : Request}

/-- The same request, as a dry run. -/
def asDryRun (r : Request) : Request := { r with dryRun := true }

theorem execute_asDryRun (r : Request) (s : Surroundings) :
    r.asDryRun.execute s =
      (((r.job s.toolchain).draft s.tree s.today).map (·.metadata), s.tree) := rfl

theorem execute_eq_run (hd : r.dryRun = false) (s : Surroundings) :
    r.execute s = (r.job s.toolchain).run s.tree s.today := by
  simp [execute, hd]

/-- Where there is no draft, nothing is told that a dry run would not tell. -/
theorem logText_asDryRun (hd : r.dryRun = false) {s : Surroundings} {e : Job.Error}
    (h : (r.job s.toolchain).draft s.tree s.today = .error e) :
    r.asDryRun.logText s = r.logText s := by
  have hevents : r.asDryRun.events s = r.events s := by
    have hdry : r.asDryRun.events s = (r.job s.toolchain).dryEvents s.tree s.today := rfl
    have hrun : r.events s = (r.job s.toolchain).runEvents s.tree s.today := by simp [events, hd]
    rw [hdry, hrun, Job.dryEvents, Job.runEvents, h]
  rw [logText, logText, hevents]
  rfl

/-- **A request and its dry run.**  They fail alike, or the dry run succeeds.  Then the request
succeeds with the same metadata, or its target, which could be read, may not be written to. -/
theorem asDryRun_cases (hd : r.dryRun = false) (s : Surroundings) :
    (∃ e, r.execute s = (.error e, s.tree) ∧ r.asDryRun.execute s = (.error e, s.tree) ∧
      r.asDryRun.logText s = r.logText s) ∨
    ∃ m, r.asDryRun.execute s = (.ok m, s.tree) ∧
      ((∃ t, r.execute s = (.ok m, t)) ∨
        (r.execute s = (.error (.access r.targetFile .permissionDenied), s.tree) ∧
          (∃ text, s.tree.readText r.targetFile = .ok text) ∧
          ∃ l n, s.tree.find r.targetFile = .ok (l, n) ∧ n.mode.write = false)) := by
  rw [execute_asDryRun, execute_eq_run hd]
  cases hj : (r.job s.toolchain).draft s.tree s.today with
  | error e => exact .inl ⟨e, Job.run_of_draft_error hj, rfl, logText_asDryRun hd hj⟩
  | ok d =>
      obtain ⟨text, hr, -⟩ := Job.imprinted_of_draft hj
      refine .inr ⟨d.metadata, rfl, (Job.run_of_draft hj).imp id ?_⟩
      exact fun ⟨he, hw⟩ => ⟨he, ⟨text, hr⟩, hw⟩

end Request

/-- **A dry run and the real one.**  Let the arguments request a job that is no dry run, put
`--dry-run` in front of them, and let standard output take what it is given.  The dry run never
changes the tree.  If the real run ends with status 0, so does the dry run, and it prints the same.
If the dry run ends with status 1, so does the real run; both leave the same log and the same error.
The real run alone ends with status 1 only if its target can be read as text and may not be written
to, and that is the error then. -/
theorem invoke_dryRun {args : List Bytes} {r : Request} (hr : Request.ofWords args = .ok r)
    (hd : r.dryRun = false) (s : Surroundings) :
    let real := invoke s args
    let dry := invoke s (Text.encode "--dry-run".toList :: args)
    dry.tree = s.tree ∧
      (real.verdict.status = 0 → dry.verdict.status = 0 ∧ dry.stdout = real.stdout) ∧
      (dry.verdict.status = 1 → real.verdict.status = 1 ∧
        ∃ e, dry.stderr = r.logText s ++ r.failure e ∧ real.stderr = r.logText s ++ r.failure e) ∧
      (real.verdict.status = 1 → dry.verdict.status = 0 →
        (∃ text, s.tree.readText r.targetFile = .ok text) ∧
        (∃ l n, s.tree.find r.targetFile = .ok (l, n) ∧ n.mode.write = false) ∧
        real.stderr = r.logText s ++ r.failure (.access r.targetFile .permissionDenied)) := by
  intro real dry
  have hreal : real = r.outcome s := by simp only [real, invoke, hr]
  have hdry : dry = r.asDryRun.outcome s := by
    simp only [dry, invoke, Request.ofWords_dryRun hr hd]
    rfl
  rw [hreal, hdry]
  rcases Request.asDryRun_cases hd s with ⟨e, hx, hx', hl⟩ | ⟨m, hx', ⟨t, hx⟩ | ⟨hx, htext, hw⟩⟩
  · rw [Request.outcome_of_error hx, Request.outcome_of_error hx', hl]
    exact ⟨rfl, fun h => absurd h Nat.one_ne_zero, fun _ => ⟨rfl, e, rfl, rfl⟩,
      fun _ h => absurd h Nat.one_ne_zero⟩
  · rw [Request.outcome_of_taken hx rfl, Request.outcome_of_taken hx' rfl]
    exact ⟨rfl, fun _ => ⟨rfl, rfl⟩, fun h => absurd h Nat.zero_ne_one,
      fun h => absurd h Nat.zero_ne_one⟩
  · rw [Request.outcome_of_error hx, Request.outcome_of_taken hx' rfl]
    exact ⟨rfl, fun h => absurd h Nat.one_ne_zero, fun h => absurd h Nat.zero_ne_one,
      fun _ _ => ⟨htext, hw, rfl⟩⟩

/-- The target may be read and not written to: the real run alone fails. -/
theorem invoke_dryRun_readOnly :
    let t : Tree := ⟨[([], ⟨.all, .directory⟩),
      ([Text.encode "bin".toList], ⟨.all, .directory⟩),
      ([Text.encode "bin".toList, Text.encode "go".toList], ⟨.all, .octets [1]⟩),
      ([[108]], ⟨.readWrite, .octets [10]⟩),
      ([[116]], ⟨⟨true, false, false⟩, .octets []⟩)], [],
      [([1], ⟨Text.encode "go version go1.21.0 linux/amd64\n".toList, [], 0, none, false⟩)]⟩
    let s : Surroundings := ⟨t, ⟨2024, 3, 9, by decide⟩, none, none, []⟩
    let r : Request := ⟨[108], [116], none, none, Toolchain.defaultArgs, false, true, false⟩
    let args := [[108], [116], Text.encode "--json".toList]
    let real := invoke s args
    let dry := invoke s (Text.encode "--dry-run".toList :: args)
    (Request.ofWords args = .ok r ∧ r.dryRun = false) ∧
      real.verdict.status = 1 ∧ dry.verdict.status = 0 ∧
      real.stderr = r.logText s ++ r.failure (.access r.targetFile .permissionDenied) := by
  intro t s r args real dry
  have hr : Request.ofWords args = .ok r := rfl
  have hreal : real.verdict.status = 1 := by decide +kernel
  have hdry : dry.verdict.status = 0 := by decide +kernel
  exact ⟨⟨hr, rfl⟩, hreal, hdry, ((invoke_dryRun hr rfl s).2.2.2 hreal hdry).2.2⟩

end Imprint.Command
