import Imprint.Proofs.Files.Apart
import Imprint.Proofs.Job.Steps

/-!
# Job — runs that have nothing to do with each other

A run reads its log and its target and writes its target.  What is stored into any other file it
neither sees nor changes (`run_store`), if its probe does not look into the tree.

* `run_tree_cases`: a run leaves the tree as it was or stores into the node its target leads to.
* `run_comm`: two runs may be done in either order, if neither target is the target or the log of
  the other.
-/

namespace Imprint.Job

open Files (Tree Location)

variable {a b j : Job} {t : Tree} {l : Location} {x y : Text} {day day' : Date}

/-- A job with a date of its own does not look at the day. -/
theorem run_congr_day (h : j.date = some day) (t : Tree) (today today' : Date) :
    j.run t today = j.run t today' := by
  have hm : ∀ lines answer, j.metadata today lines answer = j.metadata today' lines answer := by
    intro lines answer
    rw [metadata, metadata, h]
    rfl
  simp only [run, draft, hm]

/-! ### What is stored elsewhere -/

section Elsewhere

variable (hprobe : j.probe = .fixed x) (hlog : t.place j.log true ≠ .ok l)
  (htarget : t.place j.target true ≠ .ok l)
include hprobe hlog htarget

theorem draft_store (bs : Bytes) (today : Date) :
    j.draft (t.store l bs) today = j.draft t today := by
  have hl : countLog (t.store l bs) j.log = countLog t j.log := by
    rw [countLog, countLog, Tree.read_store hlog]
  have hr : readTarget (t.store l bs) j.target = readTarget t j.target := by
    rw [readTarget, readTarget, Tree.readText_store htarget]
  have ha : ask (t.store l bs) j.probe = ask t j.probe := by rw [hprobe, ask, ask]
  rw [draft, draft, hl, ha, hr]

/-- **A run does not see what is stored elsewhere, and leaves it there.** -/
theorem run_store (bs : Bytes) (today : Date) :
    j.run (t.store l bs) today = ((j.run t today).1, (j.run t today).2.store l bs) := by
  rw [run, run, draft_store hprobe hlog htarget]
  cases j.draft t today with
  | error e => rfl
  | ok d =>
      simp only [commit, Tree.overwrite_store htarget]
      cases t.overwrite j.target d.imprinted.text.encode <;> rfl

end Elsewhere

/-- The tree after a run is the one before or one in which the node of the target was stored to. -/
theorem run_tree_cases (j : Job) (t : Tree) (today : Date) :
    (j.run t today).2 = t ∨
      ∃ l bs, t.place j.target true = .ok l ∧ (j.run t today).2 = t.store l bs := by
  unfold run
  cases j.draft t today with
  | error e => exact .inl rfl
  | ok d =>
      cases hc : commit t j.target d.imprinted.text with
      | error e => exact .inl (by simp only [hc])
      | ok t' =>
          obtain ⟨l, n, hf, ht⟩ := Tree.overwrite_eq_ok (commit_eq_ok hc)
          subst ht
          refine .inr ⟨l, d.imprinted.text.encode, (Tree.find_eq_ok_iff.1 hf).1, ?_⟩
          simp only [hc]

/-! ### Two runs -/

section Two

variable (ha : a.probe = .fixed x) (hb : b.probe = .fixed y)
  (htargets : t.Apart a.target b.target) (hab : t.Apart a.target b.log)
  (hba : t.Apart b.target a.log) (today : Date)

include hb htargets hab in
/-- A run answers the same before and after another. -/
theorem run_run_fst (today' : Date) :
    (b.run (a.run t today).2 today').1 = (b.run t today').1 := by
  rcases a.run_tree_cases t today with e | ⟨l, bs, hl, e⟩
  · rw [e]
  · rw [e, run_store hb (hab l hl) (htargets l hl)]

include ha hb htargets hab hba in
/-- Two runs leave the same tree in either order. -/
theorem run_run_snd (today' : Date) :
    (b.run (a.run t today).2 today').2 = (a.run (b.run t today').2 today).2 := by
  rcases a.run_tree_cases t today with ea | ⟨l, bs, hl, ea⟩
  · rcases b.run_tree_cases t today' with eb | ⟨k, cs, hk, eb⟩
    · rw [ea, eb, ea]
    · rw [ea, eb, run_store ha (hba k hk) (htargets.symm k hk), ea]
  · rw [ea, run_store hb (hab l hl) (htargets l hl)]
    rcases b.run_tree_cases t today' with eb | ⟨k, cs, hk, eb⟩
    · rw [eb, ea]
    · have hkl : k ≠ l := fun e => htargets l hl (e ▸ hk)
      rw [eb, run_store ha (hba k hk) (htargets.symm k hk), ea, Tree.store_comm hkl]

end Two

/-- **Runs that lie apart may be done in either order.**  Let two jobs have fixed probes and dates
of their own, and let the target of neither lead where the target or the log of the other leads.
Whether they succeed or fail, each of them answers the same, with the same metadata or the same
error, whether it is run first or second, and both orders leave the same tree. -/
theorem run_comm (ha : a.probe = .fixed x) (hb : b.probe = .fixed y) (hda : a.date = some day)
    (hdb : b.date = some day') (htargets : t.Apart a.target b.target)
    (hab : t.Apart a.target b.log) (hba : t.Apart b.target a.log)
    (today₁ today₂ today₃ today₄ : Date) :
    let a₁ := a.run t today₁
    let b₂ := b.run a₁.2 today₂
    let b₁ := b.run t today₃
    let a₂ := a.run b₁.2 today₄
    a₂.1 = a₁.1 ∧ b₂.1 = b₁.1 ∧ b₂.2 = a₂.2 := by
  intro a₁ b₂ b₁ a₂
  have ea : a₂ = a.run b₁.2 today₁ := run_congr_day hda _ today₄ today₁
  have eb : b₂ = b.run a₁.2 today₃ := run_congr_day hdb _ today₂ today₃
  rw [ea, eb]
  exact ⟨run_run_fst ha htargets.symm hba today₃ today₁, run_run_fst hb htargets hab today₁ today₃,
    run_run_snd ha hb htargets hab hba today₁ today₃⟩

/-- One job is its own log through a link; the other may not write to its target and fails. -/
theorem run_comm_readOnly :
    let t : Tree := ⟨[([], ⟨.all, .directory⟩), ([[108]], ⟨.readWrite, .octets [120, 10]⟩),
      ([[116]], ⟨.readWrite, .octets (Text.encode Field.buildString.opening)⟩),
      ([[115]], ⟨.all, .link [116]⟩),
      ([[117]], ⟨⟨true, false, false⟩, .octets (Text.encode Field.buildDate.opening)⟩)], [], []⟩
    let day : Date := ⟨2024, 3, 9, by decide⟩
    let a : Job := ⟨[115], [116], none, .fixed "go version go1.21.0 x".toList, some day⟩
    let b : Job := ⟨[108], [117], some "1.0".toList, .fixed [], some day⟩
    ((a.date = some day ∧ b.date = some day) ∧ t.Apart a.target b.target ∧
      t.Apart a.target b.log ∧ t.Apart b.target a.log) ∧
    (b.run t day).1 = .error (.access [117] .permissionDenied) ∧
    (a.run (b.run t day).2 day).1 = (a.run t day).1 ∧
      (b.run (a.run t day).2 day).1 = (b.run t day).1 ∧
      (b.run (a.run t day).2 day).2 = (a.run (b.run t day).2 day).2 := by
  intro t day a b
  have htargets : t.Apart a.target b.target := Tree.apart_of_ne (by decide)
  have hab : t.Apart a.target b.log := Tree.apart_of_ne (by decide)
  have hba : t.Apart b.target a.log := Tree.apart_of_ne (by decide)
  exact ⟨⟨⟨rfl, rfl⟩, htargets, hab, hba⟩, rfl,
    run_comm rfl rfl rfl rfl htargets hab hba day day day day⟩

end Imprint.Job
