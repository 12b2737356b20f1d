import Imprint.Command.Invocation
import Imprint.Proofs.Buffer.Written
import Imprint.Proofs.Job.Steps

/-!
# Command — what is done to the files

An errand is one use of the program: a job that is drafted or run, a target that is imprinted as
jobs are by default, or an invocation.  It may fail wherever a file is opened, the toolchain is
asked, or the command line is read; and after all that, where the report of an invocation is
written.

* `Request.execute_cases`, `invoke_cases`: how what is requested, and an invocation, may end.
* `Errand.unchanged_or_overwritten`: an errand leaves the tree as it was, unless it was to imprint
  and did; then one file is overwritten, with what the reported metadata makes of it.
* `Errand.command_refused`: an invocation whose report is refused fails, and its target is
  overwritten all the same.
* `Errand.sameShape_treeAfterAll`: errands one after the other never change more than the octets in
  files.
-/

namespace Imprint.Command

open Files (Tree)

variable {r : Request} {s : Surroundings} {m : Metadata} {t : Tree} {out : Sink}

/-! ### Requests and invocations -/

/-- What is requested fails and changes nothing, or is a dry run and changes nothing, or overwrites
the target. -/
theorem Request.execute_cases (r : Request) (s : Surroundings) :
    (∃ e, r.execute s = (.error e, s.tree)) ∨
      (r.dryRun = true ∧ ∃ m, r.execute s = (.ok m, s.tree)) ∨
      (r.dryRun = false ∧ ∃ m text t, r.execute s = (.ok m, t) ∧
        s.tree.readText r.targetFile = .ok text ∧
        s.tree.Overwritten r.targetFile (m.imprint text).text.encode t) := by
  cases hd : r.dryRun with
  | true =>
      -- a dry run drafts the job, and a draft has no tree
      cases hj : (r.job s.toolchain).draft s.tree s.today with
      | error e => exact .inl ⟨e, by simp [execute, hd, hj, Except.map]⟩
      | ok d => exact .inr (.inl ⟨rfl, d.metadata, by simp [execute, hd, hj, Except.map]⟩)
  | false =>
      have hx : r.execute s = (r.job s.toolchain).run s.tree s.today := by simp [execute, hd]
      rw [hx]
      rcases (r.job s.toolchain).run_cases s.tree s.today with he | hok
      · exact .inl he
      · exact .inr (.inr ⟨rfl, hok⟩)

theorem Request.outcome_of_error {e : Job.Error} (h : r.execute s = (.error e, t)) (out : Sink) :
    r.outcome s out = ⟨.failed, [], r.logText s ++ r.failure e, t⟩ := by
  simp only [outcome, h]

theorem Request.outcome_of_taken (h : r.execute s = (.ok m, t))
    (hout : out.refusal? (r.report.pieces m) = none) :
    r.outcome s out = ⟨.done, r.report.text m, r.logText s, t⟩ := by
  simp only [outcome, h, hout]

theorem Request.outcome_of_refused {reason : Text} (h : r.execute s = (.ok m, t))
    (hout : out.refusal? (r.report.pieces m) = some reason) :
    r.outcome s out = ⟨.unreported, r.report.text m, r.logText s ++ refusal reason, t⟩ := by
  simp only [outcome, h, hout]

/-- What comes of the report of a job that is done.  All of it arrives, and that is success; or the
sink has too little room for it, takes as much as there is room for, and the error says why it
refuses the rest. -/
def Request.Reported (r : Request) (s : Surroundings) (out : Sink) (m : Metadata) (o : Outcome) :
    Prop :=
  (o.verdict = .done ∧ out.received (r.report.pieces m) = (r.report.text m).encode) ∨
    ∃ room reason, out = .bounded room reason ∧ room < (r.report.text m).encode.length ∧
      o.verdict = .unreported ∧ o.stderr = r.logText s ++ refusal reason ∧
      out.received (r.report.pieces m) = (r.report.text m).encode.take room

/-- A request that does its job reports it, and the tree is what the job leaves. -/
theorem Request.outcome_of_ok (h : r.execute s = (.ok m, t)) (out : Sink) :
    (r.outcome s out).tree = t ∧ (r.outcome s out).stdout = r.report.text m ∧
      r.Reported s out m (r.outcome s out) := by
  have hcases := out.refusal?_cases (r.report.pieces m)
  rw [Report.flatten_pieces] at hcases
  rcases hcases with ⟨hnone, htaken⟩ | ⟨room, reason, hout, hlt, hsome, htaken⟩
  · rw [outcome_of_taken h hnone]
    exact ⟨rfl, rfl, .inl ⟨rfl, htaken⟩⟩
  · rw [outcome_of_refused h hsome]
    exact ⟨rfl, rfl, .inr ⟨room, reason, hout, hlt, rfl, rfl, htaken⟩⟩

/-- What an invocation that imprints a target leaves: the metadata on its standard output, as far as
that takes it, and the target overwritten. -/
structure Imprints (s : Surroundings) (out : Sink) (r : Request) (m : Metadata) (o : Outcome) :
    Prop where
  executed : (r.execute s).1 = .ok m
  stdout   : o.stdout = r.report.text m
  reported : r.Reported s out m o
  tree     : ∃ text, s.tree.readText r.targetFile = .ok text ∧
    s.tree.Overwritten r.targetFile (m.imprint text).text.encode o.tree

/-- The job of the invocation was done: all went well, or nothing but the report did not. -/
def Outcome.Finished (o : Outcome) : Prop :=
  o.verdict.status = 0 ∨ o.verdict = .unreported

theorem Imprints.finished {o : Outcome} (h : Imprints s out r m o) : o.Finished := by
  rcases h.reported with ⟨hv, -⟩ | ⟨-, -, -, -, hv, -⟩
  · exact .inl (by rw [hv]; rfl)
  · exact .inr hv

/-- An invocation changes nothing, and then its job is not done, or it shows the help or the
version, or is a dry run; or else it imprints the target that its arguments request. -/
theorem invoke_cases (s : Surroundings) (args : List Bytes) (out : Sink) :
    ((invoke s args out).tree = s.tree ∧ (¬ (invoke s args out).Finished ∨
      ∀ r, Request.ofWords args = .ok r → r.dryRun = true)) ∨
    ∃ r m, Request.ofWords args = .ok r ∧ r.dryRun = false ∧
      Imprints s out r m (invoke s args out) := by
  cases hr : Request.ofWords args with
  | error stop =>
      have hi : (invoke s args out).tree = s.tree := by
        rw [invoke, hr]
        cases stop with
        | help | version => rfl
        | error e => cases he : out.refusal? [e.report] <;> simp only [he]
      exact .inl ⟨hi, .inr fun r h => by cases h⟩
  | ok r =>
      have hi : invoke s args out = r.outcome s out := by rw [invoke, hr]
      rw [hi]
      rcases r.execute_cases s with ⟨e, hx⟩ | ⟨hd, m, hx⟩ | ⟨hd, m, text, t, hx, htext, ht⟩
      · rw [Request.outcome_of_error hx]
        exact .inl ⟨rfl, .inl (by simp [Outcome.Finished, Verdict.status])⟩
      · exact .inl ⟨(Request.outcome_of_ok hx out).1, .inr fun r' h => by cases h; exact hd⟩
      · obtain ⟨htree, hstdout, hreported⟩ := Request.outcome_of_ok hx out
        refine .inr ⟨r, m, rfl, hd, congrArg Prod.fst hx, hstdout, hreported, text, htext, ?_⟩
        rw [htree]
        exact ht

/-! ### Errands -/

/-- One use of the program. -/
inductive Errand where
  | draft (j : Job)
  | run (j : Job)
  /-- A job with the default probe and no date of its own. -/
  | imprint (log target : Bytes) (version : Option Text)
  /-- An invocation with these arguments, and where its standard output goes. -/
  | command (args : List Bytes) (out : Sink)

namespace Errand

/-- The job of `Errand.imprint`. -/
def usual (log target : Bytes) (version : Option Text) : Job :=
  (Job.create log target).withVersion version

/-- The tree after an errand; a draft has none to give. -/
def treeAfter (s : Surroundings) : Errand → Tree
  | .draft _                    => s.tree
  | .run j                      => (j.run s.tree s.today).2
  | .imprint log target version => ((usual log target version).run s.tree s.today).2
  | .command args out           => (invoke s args out).tree

/-- The errand was to imprint a target and did.  A run has answered with metadata.  Of an invocation
neither help nor the version nor a dry run was asked, and it has ended with status 0, or with status
1 for nothing but its report. -/
def Commits (s : Surroundings) : Errand → Prop
  | .draft _                    => False
  | .run j                      => ∃ m, (j.run s.tree s.today).1 = .ok m
  | .imprint log target version =>
    ∃ m, ((usual log target version).run s.tree s.today).1 = .ok m
  | .command args out           => (invoke s args out).Finished ∧
    ∃ r, Request.ofWords args = .ok r ∧ r.dryRun = false

/-- The target of the errand, and the metadata that it returns or reports. -/
def Reports (s : Surroundings) (target : Bytes) (m : Metadata) : Errand → Prop
  | .draft _                     => False
  | .run j                       => j.target = target ∧ (j.run s.tree s.today).1 = .ok m
  | .imprint log target' version =>
    target' = target ∧ ((usual log target' version).run s.tree s.today).1 = .ok m
  | .command args out            => ∃ r, Request.ofWords args = .ok r ∧ r.targetFile = target ∧
    (r.execute s).1 = .ok m ∧ (invoke s args out).stdout = r.report.text m ∧
    r.Reported s out m (invoke s args out)

/-- The tree is left as it was, or the reported metadata was imprinted on the target. -/
def Accounted (s : Surroundings) (e : Errand) : Prop :=
  (¬ e.Commits s → e.treeAfter s = s.tree) ∧
    (e.Commits s → ∃ target m text, e.Reports s target m ∧ s.tree.readText target = .ok text ∧
      s.tree.Overwritten target (m.imprint text).text.encode (e.treeAfter s))

theorem accounted_run (s : Surroundings) (j : Job) : (run j).Accounted s := by
  rcases j.run_cases s.tree s.today with ⟨e, hx⟩ | ⟨m, text, t, hx, htext, ht⟩
  · refine ⟨fun _ => congrArg Prod.snd hx, ?_⟩
    rintro ⟨m, hm⟩
    rw [hx] at hm
    cases hm
  · have hm : (j.run s.tree s.today).1 = .ok m := congrArg Prod.fst hx
    have hafter : (run j).treeAfter s = t := congrArg Prod.snd hx
    refine ⟨fun hno => absurd ⟨m, hm⟩ hno, fun _ => ⟨j.target, m, text, ⟨rfl, hm⟩, htext, ?_⟩⟩
    rw [hafter]
    exact ht

theorem accounted_command (s : Surroundings) (args : List Bytes) (out : Sink) :
    (command args out).Accounted s := by
  rcases invoke_cases s args out with ⟨ht, hno⟩ | ⟨r, m, hr, hd, hi⟩
  · refine ⟨fun _ => ht, ?_⟩
    rintro ⟨hf, r, hr, hd⟩
    rcases hno with hno | hno
    · exact absurd hf hno
    · rw [hno r hr] at hd
      cases hd
  · obtain ⟨text, htext, ht⟩ := hi.tree
    have hreports : (command args out).Reports s r.targetFile m :=
      ⟨r, hr, rfl, hi.executed, hi.stdout, hi.reported⟩
    exact ⟨fun hno => absurd ⟨hi.finished, r, hr, hd⟩ hno,
      fun _ => ⟨r.targetFile, m, text, hreports, htext, ht⟩⟩

/-- The tree after errands, each of which finds the tree that the one before it leaves; the date and
the environment may be others. -/
def treeAfterAll (t : Tree) : List (Surroundings × Errand) → Tree
  | []           => t
  | (s, e) :: es => treeAfterAll (e.treeAfter { s with tree := t }) es

theorem Accounted.sameShape {e : Errand} (h : e.Accounted s) :
    s.tree.SameShape (e.treeAfter s) := by
  by_cases hc : e.Commits s
  · obtain ⟨target, m, text, -, -, ht⟩ := h.2 hc
    exact ht.sameShape
  · rw [h.1 hc]
    exact Tree.SameShape.refl s.tree

theorem sameShape_treeAfter (s : Surroundings) (e : Errand) :
    s.tree.SameShape (e.treeAfter s) := by
  cases e with
  | draft j => exact Tree.SameShape.refl s.tree
  | run j => exact (accounted_run s j).sameShape
  | imprint log target version => exact (accounted_run s (usual log target version)).sameShape
  | command args out => exact (accounted_command s args out).sameShape

/-- **No sequence of errands changes more than the octets in files.** -/
theorem sameShape_treeAfterAll :
    ∀ (es : List (Surroundings × Errand)) (t : Tree), t.SameShape (treeAfterAll t es)
  | [],           t => Tree.SameShape.refl t
  | (s, e) :: es, t =>
    (sameShape_treeAfter { s with tree := t } e).trans (sameShape_treeAfterAll es _)

end Errand

end Imprint.Command
