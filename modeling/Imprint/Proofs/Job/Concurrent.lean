import Imprint.Proofs.Imprinting.Again
import Imprint.Proofs.Job.Steps

/-!
# Job — several runs at once

Jobs may be run at the same time on one tree.  Each goes through its four steps, counting, asking,
reading and storing, and each step is done at once; but between two steps of one run there may be
any steps of others, so that a run may store what it made of a target that has been overwritten
since it was read.

* `Stage.next` is one step of a run and `Concurrent.turn` one step of one of several runs, which a
  schedule names in any order.  Four steps without interruption are `Job.run` (`after_alone`).
* `Kept` is what every step keeps (`Kept.turn`): the tree is as it was or its target was overwritten
  last by a run that is done; and every draft under way is, to the character, what would have been
  made of the target as it was at first.
* `last_stored_wins`: so the target always holds what the run that stored last would have made of
  it alone.
-/

namespace Imprint.Job

open Files (Tree)

/-! ### Steps of one run -/

/-- How far a run has come. -/
inductive Stage where
  | begun
  | counted (lines : UInt64)
  | answered (lines : UInt64) (answer : Text)
  | drafted (d : Draft)
  | done (m : Metadata)
  | failed (e : Error)
  deriving DecidableEq, Repr

namespace Stage

/-- One step: the stage that the run comes to, and the tree after it.  The first step that fails
ends the run, and a run that is over takes no more steps. -/
def next (j : Job) (today : Date) (t : Tree) : Stage → Stage × Tree
  | .begun                 =>
    match countLog t j.log with
    | .ok lines => (.counted lines, t)
    | .error e  => (.failed e, t)
  | .counted lines         =>
    match ask t j.probe with
    | .ok answer => (.answered lines answer, t)
    | .error e   => (.failed e, t)
  | .answered lines answer =>
    match readTarget t j.target with
    | .ok text =>
      let m := j.metadata today lines answer
      (.drafted ⟨m, m.imprint text⟩, t)
    | .error e => (.failed e, t)
  | .drafted d             =>
    match commit t j.target d.imprinted.text with
    | .ok t'   => (.done d.metadata, t')
    | .error e => (.failed e, t)
  | .done m                => (.done m, t)
  | .failed e              => (.failed e, t)

/-- The stage in which a run ends. -/
def ofResult : Except Error Metadata → Stage
  | .ok m    => .done m
  | .error e => .failed e

/-- **What one step can do.**  It may store a draft, and then the run is done.  Otherwise it leaves
the tree alone, and a run is done after it only if it was done before; if it makes a draft, that is
of the target as it is now. -/
theorem next_cases (j : Job) (today : Date) (t : Tree) (st : Stage) :
    (∃ d t', st = .drafted d ∧ commit t j.target d.imprinted.text = .ok t' ∧
      st.next j today t = (.done d.metadata, t')) ∨
    ((st.next j today t).2 = t ∧ (∀ m, (st.next j today t).1 = .done m ↔ st = .done m) ∧
      ∀ d, (st.next j today t).1 = .drafted d → ∃ text, t.readText j.target = .ok text ∧
        d.metadata.version = j.version ∧ d.imprinted = d.metadata.imprint text) := by
  cases st with
  | begun =>
      refine .inr ?_
      unfold next
      cases countLog t j.log <;> simp
  | counted lines =>
      refine .inr ?_
      unfold next
      cases ask t j.probe <;> simp
  | answered lines answer =>
      refine .inr ?_
      unfold next
      cases hr : readTarget t j.target with
      | error e => simp
      | ok text =>
          refine ⟨rfl, by simp, fun d h => ?_⟩
          cases h
          exact ⟨text, readTarget_eq_ok hr, rfl, rfl⟩
  | drafted d =>
      cases hc : commit t j.target d.imprinted.text with
      | ok t' => exact .inl ⟨d, t', rfl, hc, by simp only [next, hc]⟩
      | error e => exact .inr (by simp [next, hc])
  | done m => exact .inr ⟨rfl, fun _ => Iff.rfl, fun d h => (by cases h)⟩
  | failed e => exact .inr ⟨rfl, fun _ => Iff.rfl, fun d h => (by cases h)⟩

end Stage

/-! ### Several runs -/

/-- A run of a job on a day. -/
structure Run where
  job   : Job
  today : Date
  stage : Stage
  deriving DecidableEq, Repr

/-- Runs on one tree, and the place in the list of the one that stored last, if any has. -/
structure Concurrent where
  tree : Tree
  runs : List Run
  last : Option Nat

namespace Concurrent

/-- Runs that are all to begin. -/
def start (t : Tree) (jobs : List (Job × Date)) : Concurrent where
  tree := t
  runs := jobs.map fun p => ⟨p.1, p.2, .begun⟩
  last := none

/-- One step of the run at a place in the list, if there is one. -/
def turn (s : Concurrent) (i : Nat) : Concurrent :=
  match s.runs[i]? with
  | none   => s
  | some r =>
    let now := r.stage.next r.job r.today s.tree
    { tree := now.2
      runs := s.runs.set i { r with stage := now.1 }
      last := match r.stage, now.1 with
        | .drafted _, .done _ => some i
        | _, _                => s.last }

/-- The steps that a schedule names, one after the other. -/
def after (s : Concurrent) (schedule : List Nat) : Concurrent :=
  schedule.foldl turn s

/-- The four steps of a job, one after the other, are the whole job. -/
theorem after_alone (j : Job) (t : Tree) (today : Date) :
    ((start t [(j, today)]).after [0, 0, 0, 0]).tree = (j.run t today).2 ∧
      ((start t [(j, today)]).after [0, 0, 0, 0]).runs =
        [⟨j, today, .ofResult (j.run t today).1⟩] := by
  cases hl : countLog t j.log with
  | error e =>
      have hd : j.draft t today = .error e := by rw [draft, hl]; rfl
      simp [after, start, turn, Stage.next, Stage.ofResult, run, hl, hd]
  | ok lines =>
  cases ha : ask t j.probe with
  | error e =>
      have hd : j.draft t today = .error e := by rw [draft, hl, ha]; rfl
      simp [after, start, turn, Stage.next, Stage.ofResult, run, hl, ha, hd]
  | ok answer =>
  cases hr : readTarget t j.target with
  | error e =>
      have hd : j.draft t today = .error e := by rw [draft, hl, ha, hr]; rfl
      simp [after, start, turn, Stage.next, Stage.ofResult, run, hl, ha, hr, hd]
  | ok text =>
      let m := j.metadata today lines answer
      have hd : j.draft t today = .ok ⟨m, m.imprint text⟩ := by rw [draft, hl, ha, hr]; rfl
      cases hc : commit t j.target (m.imprint text).text <;>
        simp [after, start, turn, Stage.next, Stage.ofResult, run, hl, ha, hr, hd, hc, m]

/-! ### What every step keeps -/

variable {s : Concurrent} {i k : Nat} {r q : Run} {st : Stage} {m : Metadata} {d : Draft}
  {t t' : Tree} {target : Bytes} {c text : Text} {jobs : List (Job × Date)}

/-- **What a turn can do.**  There may be no such run.  The run may store its draft; it is then the
one that stored last.  Otherwise the tree stays, and so does the record of who stored last. -/
theorem turn_cases (s : Concurrent) (i : Nat) :
    s.turn i = s ∨
    (∃ r d t', s.runs[i]? = some r ∧ r.stage = .drafted d ∧
      commit s.tree r.job.target d.imprinted.text = .ok t' ∧
      s.turn i = ⟨t', s.runs.set i { r with stage := .done d.metadata }, some i⟩) ∨
    ∃ r st, s.runs[i]? = some r ∧
      s.turn i = { s with runs := s.runs.set i { r with stage := st } } ∧
      (∀ m, st = .done m ↔ r.stage = .done m) ∧
      ∀ d, st = .drafted d → ∃ text, s.tree.readText r.job.target = .ok text ∧
        d.metadata.version = r.job.version ∧ d.imprinted = d.metadata.imprint text := by
  cases hi : s.runs[i]? with
  | none => exact .inl (by simp only [turn, hi])
  | some r =>
      obtain ⟨j, today, st⟩ := r
      rcases st.next_cases j today s.tree with ⟨d, t', rfl, hc, hn⟩ | ⟨ht, hm, hd⟩
      · exact .inr (.inl ⟨_, d, t', rfl, rfl, hc, by simp only [turn, hi, hn]⟩)
      · refine .inr (.inr ⟨_, _, rfl, ?_, hm, hd⟩)
        simp only [turn, hi, ht]
        split
        case h_1 hn => cases (hm _).1 hn
        case h_2 => rfl

/-- A run that is done is still there after one has gone on, if that one is done now exactly if it
was done before. -/
theorem getElem?_set_of_done (hi : s.runs[i]? = some r)
    (hst : ∀ m, st = .done m ↔ r.stage = .done m) (hk : s.runs[k]? = some q)
    (hm : q.stage = .done m) : (s.runs.set i { r with stage := st })[k]? = some q := by
  by_cases hik : i = k
  · subst hik
    obtain rfl := Option.some.inj (hi.symm.trans hk)
    obtain rfl := (hst m).2 hm
    rw [List.getElem?_set_self (List.getElem?_eq_some_iff.1 hk).1, ← hm]
  · exact (List.getElem?_set_ne hik).trans hk

/-- A run that is done stays as it is. -/
theorem getElem?_turn (hk : s.runs[k]? = some q) (hm : q.stage = .done m) (i : Nat) :
    (s.turn i).runs[k]? = some q := by
  rcases s.turn_cases i with e | ⟨r, d, t', hi, hd, -, e⟩ | ⟨r, st, hi, e, hst, -⟩
  · rwa [e]
  · have hne : i ≠ k := by
      rintro rfl
      obtain rfl := Option.some.inj (hi.symm.trans hk)
      rw [hm] at hd
      cases hd
    rw [e]
    exact (List.getElem?_set_ne hne).trans hk
  · rw [e]
    exact getElem?_set_of_done hi hst hk hm

theorem getElem?_after (hk : s.runs[k]? = some q) (hm : q.stage = .done m) (schedule : List Nat) :
    (s.after schedule).runs[k]? = some q := by
  induction schedule generalizing s with
  | nil => exact hk
  | cons i schedule ih => exact ih (getElem?_turn hk hm i)

/-- A run that is one of those given, and its draft and its metadata are in keeping with the text
that the target had at first. -/
structure InKeeping (jobs : List (Job × Date)) (c : Text) (r : Run) : Prop where
  given   : (r.job, r.today) ∈ jobs
  draft   : ∀ d, r.stage = .drafted d → d.metadata.version = r.job.version ∧
    d.imprinted.text = (d.metadata.imprint c).text
  version : ∀ m, r.stage = .done m → m.version = r.job.version

/-- What every step keeps. -/
structure Kept (t : Tree) (target : Bytes) (c : Text) (jobs : List (Job × Date))
    (s : Concurrent) : Prop where
  unstored : s.last = none → s.tree = t ∧ ∀ r ∈ s.runs, ∀ m, r.stage ≠ .done m
  stored   : ∀ i, s.last = some i → ∃ r m, s.runs[i]? = some r ∧ r.stage = .done m ∧
    t.Overwritten target (m.imprint c).text.encode s.tree
  run      : ∀ r ∈ s.runs, InKeeping jobs c r

theorem kept_start (t : Tree) (target : Bytes) (c : Text) (jobs : List (Job × Date)) :
    Kept t target c jobs (start t jobs) where
  unstored _ := by
    refine ⟨rfl, fun r hr m => ?_⟩
    obtain ⟨p, -, rfl⟩ := List.mem_map.1 hr
    exact fun h => by cases h
  stored _ h := by cases h
  run r hr   := by
    obtain ⟨p, hp, rfl⟩ := List.mem_map.1 hr
    exact ⟨hp, fun d h => (by cases h), fun m h => (by cases h)⟩

theorem Kept.place (h : Kept t target c jobs s) (p : Bytes) (follow : Bool) :
    s.tree.place p follow = t.place p follow := by
  cases hl : s.last with
  | none => rw [(h.unstored hl).1]
  | some i =>
      obtain ⟨r, m, -, -, ho⟩ := h.stored i hl
      exact Tree.Overwritten.place ho p follow

/-- The target holds the text it had at first, or what the run that stored last made of that. -/
theorem Kept.readText (h : Kept t target c jobs s) (ht : t.readText target = .ok c) :
    (s.last = none ∧ s.tree = t ∧ s.tree.readText target = .ok c) ∨
      ∃ i r m, s.last = some i ∧ s.runs[i]? = some r ∧ r.stage = .done m ∧
        s.tree.readText target = .ok (m.imprint c).text ∧
        t.Overwritten target (m.imprint c).text.encode s.tree := by
  cases hl : s.last with
  | none =>
      have e := (h.unstored hl).1
      exact .inl ⟨rfl, e, e ▸ ht⟩
  | some i =>
      obtain ⟨r, m, hr, hm, ho⟩ := h.stored i hl
      exact .inr ⟨i, r, m, rfl, hr, hm, ho.readText ht, ho⟩

section Step

variable (h : Kept t target c jobs s) (ht : t.readText target = .ok c)
  (hp : ∀ p ∈ jobs, t.place p.1.target true = t.place target true)
  (hv : (∀ p ∈ jobs, p.1.version.isSome) ∨ ∀ p ∈ jobs, p.1.version = none)
  (hplain : ∀ r ∈ s.runs, ∀ m, r.stage = .done m → m.Plain)
include h hp

/-- All runs have the target still in common. -/
theorem Kept.place_target (hr : r ∈ s.runs) :
    s.tree.place r.job.target true = s.tree.place target true := by
  rw [h.place, h.place]
  exact hp _ (h.run r hr).given

include ht

/-- What is stored takes the place of whatever was stored before. -/
theorem Kept.overwritten (hr : r ∈ s.runs) (hc : commit s.tree r.job.target text = .ok t') :
    t.Overwritten target text.encode t' := by
  have ho := commit_eq_ok hc
  rw [Tree.overwrite_congr (h.place_target hp hr)] at ho
  rcases h.readText ht with ⟨-, e, -⟩ | ⟨-, -, w, -, -, -, hread, hw⟩
  · obtain ⟨old, hold, -⟩ := Tree.readText_eq_ok ht
    rw [e] at ho
    exact Tree.overwritten_of_overwrite hold ho
  · obtain ⟨old, hold, -⟩ := Tree.readText_eq_ok hread
    exact hw.again (Tree.overwritten_of_overwrite hold ho)

/-- A run stores its draft, which is what would have been made of the first text. -/
theorem Kept.store (hi : s.runs[i]? = some r) (hd : r.stage = .drafted d)
    (hc : commit s.tree r.job.target d.imprinted.text = .ok t') :
    Kept t target c jobs ⟨t', s.runs.set i { r with stage := .done d.metadata }, some i⟩ := by
  have hr := List.mem_of_getElem? hi
  obtain ⟨hver, himp⟩ := (h.run r hr).draft d hd
  have ho := h.overwritten ht hp hr hc
  rw [himp] at ho
  refine ⟨fun hl => (by cases hl), fun k hl => ?_, fun q hq => ?_⟩
  · cases hl
    exact ⟨_, d.metadata, List.getElem?_set_self (List.getElem?_eq_some_iff.1 hi).1, rfl, ho⟩
  · rcases List.mem_or_eq_of_mem_set hq with hq | rfl
    · exact h.run q hq
    · refine ⟨(h.run r hr).given, fun d h => (by cases h), fun m hm => ?_⟩
      cases hm
      exact hver

include hv hplain

/-- Whatever the target holds by now, it is imprinted as it would have been at first. -/
theorem Kept.imprint_eq (hr : r ∈ s.runs) (hm : m.version = r.job.version)
    (hread : s.tree.readText r.job.target = .ok text) :
    (m.imprint text).text = (m.imprint c).text := by
  rw [Tree.readText_congr (h.place_target hp hr)] at hread
  rcases h.readText ht with ⟨-, -, hc⟩ | ⟨i, q, w, -, hq, hw, hc, -⟩
  · obtain rfl : c = text := Except.ok.inj (hc.symm.trans hread)
    rfl
  · obtain rfl : (w.imprint c).text = text := Except.ok.inj (hc.symm.trans hread)
    have hqs := List.mem_of_getElem? hq
    refine (hplain q hqs w hw).text_imprint_imprint (fun hsome => ?_) c
    -- both versions are there or neither is
    rw [(h.run q hqs).version w hw] at hsome
    rw [hm]
    rcases hv with hv | hv
    · exact hv _ (h.run r hr).given
    · rw [hv _ (h.run q hqs).given] at hsome
      cases hsome

/-- A run goes on to another stage and leaves the tree alone. -/
theorem Kept.goOn (hi : s.runs[i]? = some r) (hdone : ∀ m, st = .done m ↔ r.stage = .done m)
    (hdraft : ∀ d, st = .drafted d → ∃ text, s.tree.readText r.job.target = .ok text ∧
      d.metadata.version = r.job.version ∧ d.imprinted = d.metadata.imprint text) :
    Kept t target c jobs { s with runs := s.runs.set i { r with stage := st } } := by
  have hr := List.mem_of_getElem? hi
  refine ⟨fun hl => ?_, fun k hl => ?_, fun q hq => ?_⟩
  · obtain ⟨e, hno⟩ := h.unstored hl
    refine ⟨e, fun q hq m hm => ?_⟩
    rcases List.mem_or_eq_of_mem_set hq with hq | rfl
    · exact hno q hq m hm
    · exact hno r hr m ((hdone m).1 hm)
  · obtain ⟨q, m, hq, hm, ho⟩ := h.stored k hl
    exact ⟨q, m, getElem?_set_of_done hi hdone hq hm, hm, ho⟩
  · rcases List.mem_or_eq_of_mem_set hq with hq | rfl
    · exact h.run q hq
    · have hk := h.run r hr
      refine ⟨hk.given, fun d hd => ?_, fun m hm => hk.version m ((hdone m).1 hm)⟩
      obtain ⟨text, hread, hver, himp⟩ := hdraft d hd
      rw [himp]
      exact ⟨hver, h.imprint_eq ht hp hv hplain hr hver hread⟩

/-- **A step keeps it.** -/
theorem Kept.turn (i : Nat) : Kept t target c jobs (s.turn i) := by
  rcases s.turn_cases i with e | ⟨r, d, t', hi, hd, hc, e⟩ | ⟨r, st, hi, e, hdone, hdraft⟩
  · rwa [e]
  · rw [e]
    exact h.store ht hp hi hd hc
  · rw [e]
    exact h.goOn ht hp hv hplain hi hdone hdraft

end Step

/-- **Any number of steps keeps it.** -/
theorem Kept.after (h : Kept t target c jobs s) (ht : t.readText target = .ok c)
    (hp : ∀ p ∈ jobs, t.place p.1.target true = t.place target true)
    (hv : (∀ p ∈ jobs, p.1.version.isSome) ∨ ∀ p ∈ jobs, p.1.version = none)
    {schedule : List Nat}
    (hplain : ∀ r ∈ (s.after schedule).runs, ∀ m, r.stage = .done m → m.Plain) :
    Kept t target c jobs (s.after schedule) := by
  induction schedule generalizing s with
  | nil => exact h
  | cons i schedule ih =>
      -- the runs that are done by now will still be at the end
      have hnow : ∀ r ∈ s.runs, ∀ m, r.stage = .done m → m.Plain := by
        intro r hr m hm
        obtain ⟨k, hk⟩ := List.getElem?_of_mem hr
        exact hplain r (List.mem_of_getElem? (getElem?_after hk hm (i :: schedule))) m hm
      exact ih (h.turn ht hp hv hnow i) hplain

/-- **The run that stored last wins, and nothing else is lost.**  Any number of jobs are run at the
same time, whose targets are one file of the tree `t`, which holds the text `c`; either all of them
have a version or none has.  Their steps may be taken in any order.  Let no value of a run that is
done hold a newline or, with the quote after it, the opening of another field.  Then, however far
the runs have come: if none has stored, none is done and the tree is the one they began with.  If
one has, the one that stored last is done, the target holds what its metadata makes of `c`, whatever
the run had read, and the rest of the tree is as it was. -/
theorem last_stored_wins (ht : t.readText target = .ok c)
    (hp : ∀ p ∈ jobs, t.place p.1.target true = t.place target true)
    (hv : (∀ p ∈ jobs, p.1.version.isSome) ∨ ∀ p ∈ jobs, p.1.version = none)
    (schedule : List Nat)
    (hplain : ∀ r ∈ ((start t jobs).after schedule).runs, ∀ m, r.stage = .done m →
      (∀ f v, m.value? f = some v → '\n' ∉ v) ∧
        ∀ f v, m.value? f = some v → ∀ g, g ≠ f → ¬ g.opening <:+: v ++ ['"']) :
    let s := (start t jobs).after schedule
    (s.last = none → (∀ r ∈ s.runs, ∀ m, r.stage ≠ .done m) ∧ s.tree = t ∧
      s.tree.readText target = .ok c) ∧
      ∀ i, s.last = some i → ∃ r m, s.runs[i]? = some r ∧ r.stage = .done m ∧
        s.tree.readText target = .ok (m.imprint c).text ∧
        t.Overwritten target (m.imprint c).text.encode s.tree := by
  intro s
  have hk : Kept t target c jobs s :=
    (kept_start t target c jobs).after ht hp hv fun r hr m hm =>
      ⟨(hplain r hr m hm).1, (hplain r hr m hm).2⟩
  refine ⟨fun hl => ?_, fun i hl => ?_⟩
  · obtain ⟨e, hno⟩ := hk.unstored hl
    exact ⟨hno, e, e ▸ ht⟩
  · obtain ⟨r, m, hr, hm, ho⟩ := hk.stored i hl
    exact ⟨r, m, hr, hm, ho.readText ht, ho⟩

/-- Two runs read the same text; the second stores first, and then the first stores what it made of
the text that is no longer there.  Their paths to the target differ. -/
theorem last_stored_wins_stale :
    let c := "\tversion     = \"0\" // now\nbuildString = \"".toList
    let t : Tree := ⟨[([], ⟨.all, .directory⟩),
      ([[108]], ⟨.readWrite, .octets (Text.encode ['x', '\n', 'y'])⟩),
      ([[116]], ⟨.readWrite, .octets (Text.encode c)⟩)], [], []⟩
    let jobs : List (Job × Date) := [
      (⟨[108], [116], some "1.0".toList, .fixed "go version go1.21.0 x".toList, none⟩,
        ⟨2024, 3, 9, by decide⟩),
      (⟨[108], [46, 47, 116], some "1.1".toList, .fixed "go version go1.22.0 x".toList, none⟩,
        ⟨2024, 3, 10, by decide⟩)]
    let s := (start t jobs).after [0, 1, 1, 0, 0, 1, 1, 0]
    (t.readText [116] = .ok c ∧ (∀ p ∈ jobs, t.place p.1.target true = t.place [116] true) ∧
      (∀ p ∈ jobs, p.1.version.isSome) ∧ ∀ r ∈ s.runs, ∀ m, r.stage = .done m →
        (∀ f v, m.value? f = some v → '\n' ∉ v) ∧
          ∀ f v, m.value? f = some v → ∀ g, g ≠ f → ¬ g.opening <:+: v ++ ['"']) ∧
    s.last = some 0 ∧ ∃ r m, s.runs[0]? = some r ∧ r.stage = .done m ∧
      s.tree.readText [116] = .ok (m.imprint c).text ∧
      t.Overwritten [116] (m.imprint c).text.encode s.tree := by
  intro c t jobs s
  have ht : t.readText [116] = .ok c := rfl
  have hp : ∀ p ∈ jobs, t.place p.1.target true = t.place [116] true := by
    intro p hp
    simp only [jobs, List.mem_cons, List.not_mem_nil, or_false] at hp
    rcases hp with rfl | rfl <;> rfl
  have hv : ∀ p ∈ jobs, p.1.version.isSome := by decide
  -- both runs are done
  let m₀ := Metadata.gather 2 "go version go1.21.0 x".toList ⟨2024, 3, 9, by decide⟩
    (some "1.0".toList)
  let m₁ := Metadata.gather 2 "go version go1.22.0 x".toList ⟨2024, 3, 10, by decide⟩
    (some "1.1".toList)
  have hruns : s.runs.map (·.stage) = [.done m₀, .done m₁] := by decide +kernel
  have hlast : s.last = some 0 := by decide +kernel
  have hplain : ∀ r ∈ s.runs, ∀ m, r.stage = .done m → m.Plain := by
    intro r hr m hm
    have hmem : r.stage ∈ s.runs.map (·.stage) := List.mem_map_of_mem hr
    simp only [hruns, hm, List.mem_cons, List.not_mem_nil, or_false, Stage.done.injEq] at hmem
    rcases hmem with rfl | rfl
    all_goals
      refine (Metadata.gathered_gather ..).plain
        (fun h => absurd (Text.occursIn_iff.2 h) (by decide)) ?_
      rintro _ ⟨⟩
      refine ⟨by decide, fun g _ h => absurd (Text.occursIn_iff.2 h) ?_⟩
      cases g <;> decide
  have hplain' := fun r hr m hm => (⟨(hplain r hr m hm).1, (hplain r hr m hm).2⟩ : _ ∧ _)
  exact ⟨⟨ht, hp, hv, hplain'⟩, hlast,
    (last_stored_wins ht hp (.inl hv) [0, 1, 1, 0, 0, 1, 1, 0] hplain').2 0 hlast⟩

end Concurrent

end Imprint.Job
