import Imprint.Proofs.Job.Lines
import Imprint.Proofs.LineCount.Pieces

/-!
# Job — a target that is its own log

The log of a job may be the very file that it imprints.  Then each run counts the lines that the run
before it has left.  Imprinting keeps the lines apart, and ends the last one at most, so that the
count stays what it was.

* `Numbered`: a file can be read and written to, and its text has so many lines.  A run on it whose
  toolchain answers succeeds and finds that number (`Numbered.run_eq`), and whatever a run does, it
  keeps all this (`Numbered.after_run`).
* `buildString_of_own_log`: so all runs on such a file have the same build string.
-/

namespace Imprint.Job

open Files (Tree)

variable {j : Job} {t₀ t : Tree} {today : Date} {file path : Bytes} {text answer : Text} {n : Nat}
  {js : List (Job × Date)}

/-- The log and the target of the job are the file that the path leads to. -/
structure OwnLog (j : Job) (t : Tree) (file : Bytes) : Prop where
  log    : t.place j.log true = t.place file true
  target : t.place j.target true = t.place file true

/-- The tree after jobs that are run one after the other, each on its day. -/
def treeAfter (t : Tree) : List (Job × Date) → Tree
  | []               => t
  | (j, today) :: js => treeAfter (j.run t today).2 js

theorem countLog_of_readText (h : t.readText path = .ok text) :
    countLog t path = .ok text.pieces.length.toUInt64 := by
  obtain ⟨bs, hr, hd⟩ := Tree.readText_eq_ok h
  obtain rfl := Bytes.eq_encode_of_decode? hd
  rw [countLog, hr]
  simp only [LineCount.ofBytes_eq, LineCount.lines_encode]

theorem readTarget_of_readText (h : t.readText file = .ok text) :
    readTarget t file = .ok text := by
  simp only [readTarget, h]

/-! ### What every run keeps -/

/-- The file that the path leads to can be read as a text of so many lines and can be written to,
and all paths lead where they lead in `t₀`. -/
structure Numbered (t₀ : Tree) (file : Bytes) (n : Nat) (t : Tree) : Prop where
  text     : ∃ text, t.readText file = .ok text ∧ text.pieces.length = n
  writable : ∃ l node, t.find file = .ok (l, node) ∧ node.mode.write = true
  place    : ∀ p follow, t.place p follow = t₀.place p follow

theorem Numbered.place_log (h : Numbered t₀ file n t) (hj : j.OwnLog t₀ file) :
    t.place j.log true = t.place file true := by
  rw [h.place, h.place, hj.log]

theorem Numbered.place_target (h : Numbered t₀ file n t) (hj : j.OwnLog t₀ file) :
    t.place j.target true = t.place file true := by
  rw [h.place, h.place, hj.target]

/-- **A run finds the number of lines.**  It succeeds if the toolchain answers. -/
theorem Numbered.run_eq (h : Numbered t₀ file n t) (hj : j.OwnLog t₀ file)
    (ha : ask t j.probe = .ok answer) :
    ∃ t', j.run t today = (.ok (j.metadata today n.toUInt64 answer), t') := by
  obtain ⟨text, hr, rfl⟩ := h.text
  have hl : countLog t j.log = .ok text.pieces.length.toUInt64 :=
    countLog_of_readText (by rw [Tree.readText_congr (h.place_log hj), hr])
  have ht : readTarget t j.target = .ok text :=
    readTarget_of_readText (by rw [Tree.readText_congr (h.place_target hj), hr])
  let m := j.metadata today text.pieces.length.toUInt64 answer
  have hd : j.draft t today = .ok ⟨m, m.imprint text⟩ := by rw [draft, hl, ha, ht]; rfl
  rcases run_of_draft hd with hok | ⟨-, l, node, hf, hno⟩
  · exact hok
  · obtain ⟨l', node', hf', hw⟩ := h.writable
    rw [Tree.find_congr (h.place_target hj), hf'] at hf
    cases hf
    rw [hno] at hw
    cases hw

/-- **A run keeps the number of lines.** -/
theorem Numbered.after_run (h : Numbered t₀ file n t) (hj : j.OwnLog t₀ file)
    (hv : ∀ v, j.version = some v → '\n' ∉ v) (today : Date) :
    Numbered t₀ file n (j.run t today).2 := by
  rcases j.run_cases t today with ⟨e, hx⟩ | ⟨m, text, t', hx, hr, ho⟩
  · rwa [hx]
  · rw [hx]
    have hplace : ∀ p follow, t'.place p follow = t₀.place p follow :=
      fun p follow => (ho.place p follow).trans (h.place p follow)
    -- the target leads to the file still
    have htarget : t'.place file true = t'.place j.target true := by
      rw [hplace, hplace, hj.target]
    refine ⟨⟨(m.imprint text).text, ?_, ?_⟩, ?_, hplace⟩
    · rw [Tree.readText_congr htarget, ho.readText hr]
    · obtain ⟨old, hold, rfl⟩ := h.text
      rw [Tree.readText_congr (h.place_target hj), hold] at hr
      cases hr
      rw [Metadata.pieces_imprint (unbroken_of_run hv hx), List.length_map]
    · obtain ⟨l, node, hf, hw⟩ := h.writable
      obtain ⟨l', node', -, hf', hnow, -⟩ := ho.file
      rw [Tree.find_congr (h.place_target hj), hf] at hf'
      cases hf'
      exact ⟨_, _, (Tree.find_congr htarget).trans hnow, hw⟩

/-- **Any number of runs keeps it.** -/
theorem Numbered.treeAfter (h : Numbered t₀ file n t) (hj : ∀ p ∈ js, p.1.OwnLog t₀ file)
    (hv : ∀ p ∈ js, ∀ v, p.1.version = some v → '\n' ∉ v) :
    Numbered t₀ file n (treeAfter t js) := by
  induction js generalizing t with
  | nil => exact h
  | cons p js ih =>
      have hp := h.after_run (hj p List.mem_cons_self) (hv p List.mem_cons_self) p.2
      exact ih hp (fun q hq => hj q (List.mem_cons_of_mem p hq))
        (fun q hq => hv q (List.mem_cons_of_mem p hq))

/-! ### The build string -/

/-- **The build string of a file that is its own log.**  Let the path lead to a file that can be
read as text and be written to, and let jobs be run on it one after the other, whose logs and
targets all lead there and whose versions hold no newline.  Then every run whose toolchain answers
succeeds, and its build string is that of the lines the text had at first.  For however the octets
of the file are cut into chunks, after any of the runs, that is their count. -/
theorem buildString_of_own_log (hr : t.readText file = .ok text)
    (hw : ∃ l node, t.find file = .ok (l, node) ∧ node.mode.write = true)
    (hj : ∀ p ∈ js, p.1.OwnLog t file) (hv : ∀ p ∈ js, ∀ v, p.1.version = some v → '\n' ∉ v) :
    (∀ before j today after, js = before ++ (j, today) :: after →
      ∀ answer, ask (treeAfter t before) j.probe = .ok answer →
        ∃ m t', j.run (treeAfter t before) today = (.ok m, t') ∧
          m.buildString = buildString text.pieces.length.toUInt64) ∧
      ∀ before after, js = before ++ after → ∃ bs, (treeAfter t before).read file = .ok bs ∧
        ∀ (ε : Type) (cs : List Bytes), (∀ c ∈ cs, c ≠ []) → cs.flatten = bs →
          LineCount.ofChunks (cs.map (.ok : Bytes → Except ε Bytes)) =
            .ok text.pieces.length.toUInt64 := by
  have h : Numbered t file text.pieces.length t := ⟨⟨text, hr, rfl⟩, hw, fun _ _ => rfl⟩
  have hbefore : ∀ before after, js = before ++ after →
      Numbered t file text.pieces.length (treeAfter t before) := by
    rintro before after rfl
    exact h.treeAfter (fun p hp => hj p (List.mem_append_left after hp))
      (fun p hp => hv p (List.mem_append_left after hp))
  refine ⟨fun before j today after e answer ha => ?_, fun before after e => ?_⟩
  · have hown : j.OwnLog t file := hj (j, today) (by rw [e]; simp)
    obtain ⟨t', hx⟩ := (hbefore before _ e).run_eq hown ha
    exact ⟨_, t', hx, rfl⟩
  · obtain ⟨now, hnow, hn⟩ := (hbefore before after e).text
    obtain ⟨bs, hbs, hd⟩ := Tree.readText_eq_ok hnow
    refine ⟨bs, hbs, fun ε cs hcs ecs => ?_⟩
    rw [LineCount.ofChunks_map_ok hcs, ecs, Bytes.eq_encode_of_decode? hd, LineCount.lines_encode,
      hn]

/-- The second of two runs on a file that a link leads to; its last line declares the build string
and is not ended at first. -/
theorem buildString_of_own_log_linked :
    let text := "a\r\n\nbuildString = \"".toList
    let t : Tree := ⟨[([], ⟨.all, .directory⟩),
      ([[108]], ⟨.readWrite, .octets (Text.encode text)⟩), ([[115]], ⟨.all, .link [108]⟩)], [], []⟩
    let j₁ : Job := ⟨[108], [115], some "1.0".toList, .fixed "go version go1.21.0 x".toList, none⟩
    let j₂ : Job := ⟨[115], [46, 47, 108], none, .fixed [], some ⟨2024, 3, 9, by decide⟩⟩
    let today : Date := ⟨2024, 3, 10, by decide⟩
    let js := [(j₁, today), (j₂, today)]
    (t.readText [108] = .ok text ∧
      (∃ l node, t.find [108] = .ok (l, node) ∧ node.mode.write = true) ∧
      (∀ p ∈ js, p.1.OwnLog t [108]) ∧ ∀ p ∈ js, ∀ v, p.1.version = some v → '\n' ∉ v) ∧
    ask (treeAfter t [(j₁, today)]) j₂.probe = .ok [] ∧
    ∃ m t', j₂.run (treeAfter t [(j₁, today)]) today = (.ok m, t') ∧
      m.buildString = buildString 3 := by
  intro text t j₁ j₂ today js
  have hr : t.readText [108] = .ok text := rfl
  have hw : ∃ l node, t.find [108] = .ok (l, node) ∧ node.mode.write = true := ⟨_, _, rfl, rfl⟩
  have hj : ∀ p ∈ js, p.1.OwnLog t [108] := by
    intro p hp
    simp only [js, List.mem_cons, List.not_mem_nil, or_false] at hp
    rcases hp with rfl | rfl <;> exact ⟨rfl, rfl⟩
  have hv : ∀ p ∈ js, ∀ v, p.1.version = some v → '\n' ∉ v := by
    intro p hp v h
    simp only [js, List.mem_cons, List.not_mem_nil, or_false] at hp
    rcases hp with rfl | rfl <;> cases h
    decide
  exact ⟨⟨hr, hw, hj, hv⟩, rfl,
    (buildString_of_own_log hr hw hj hv).1 [(j₁, today)] j₂ today [] rfl [] rfl⟩

end Imprint.Job
