import Imprint.Command.Line

/-!
# Command — a switch in front

Reading a command line looks at the switches met so far only where it meets another one.

* `Heedless`: a function neither looks at the switches nor changes them.  Settling what is held,
  and meeting a positional word or an option, are of this kind.
* `Indifferent`: where a function succeeds, it would do the same if a switch had been met before
  that it does not meet itself.  This is so of whatever is heedless, of meeting a switch, and of
  what is put together from such functions; so of every step (`indifferent_next`) and of all of
  them (`indifferent_nextAll`).
* `Request.ofWords_dryRun`: with `--dry-run` in front, the words of a request that is no dry run
  ask for the same as a dry run.
-/

namespace Imprint.Command

namespace Reading

variable {ε : Type} {x : Switch} {r r' : Reading} {f g : Reading → Except ε Reading}

/-- The reading with other switches. -/
def withSwitches (r : Reading) (xs : List Switch) : Reading := { r with switches := xs }

@[simp] theorem withSwitches_words (xs : List Switch) : (r.withSwitches xs).words = r.words := rfl
@[simp] theorem withSwitches_held (xs : List Switch) : (r.withSwitches xs).held = r.held := rfl
@[simp] theorem withSwitches_switches (xs : List Switch) : (r.withSwitches xs).switches = xs := rfl

/-- The reading if the switch had been met before it began. -/
def precededBy (r : Reading) (x : Switch) : Reading := r.withSwitches (r.switches ++ [x])

/-! ### What does not heed the switches -/

/-- The function neither looks at the switches nor changes them. -/
def Heedless (f : Reading → Except ε Reading) : Prop :=
  ∀ r xs, f (r.withSwitches xs) = (f r).map (·.withSwitches xs)

theorem Heedless.eq_ok (hf : Heedless f) (h : f r = .ok r') (xs : List Switch) :
    f (r.withSwitches xs) = .ok (r'.withSwitches xs) := by
  rw [hf, h]
  rfl

theorem Heedless.switches_eq (hf : Heedless f) (h : f r = .ok r') : r'.switches = r.switches := by
  have e : f r = .ok (r'.withSwitches r.switches) := hf.eq_ok h r.switches
  rw [Except.ok.inj (h.symm.trans e), withSwitches_switches]

theorem heedless_error (e : ε) : Heedless fun _ => .error e := fun _ _ => rfl

theorem heedless_takeWord (w : Bytes) : Heedless (·.takeWord w) := by
  intro r xs
  simp only [takeWord, withSwitches_words]
  split <;> split <;> rfl

theorem heedless_takeValue (s : Setting) (v : Bytes) : Heedless (·.takeValue s v) := by
  intro r xs
  cases s with
  | toolchain =>
      cases ht : r.toolchain with
      | some t => simp [takeValue, withSwitches, ht, Except.map]
      | none => cases hv : v.decode? <;> simp [takeValue, withSwitches, ht, hv, Except.map]
  | toolchainArg => cases hv : v.decode? <;> simp [takeValue, withSwitches, hv, Except.map]

theorem heedless_settle : Heedless settle := by
  intro r xs
  unfold settle
  rw [withSwitches_held]
  cases r.held with
  | nothing => rfl
  | word w => exact heedless_takeWord w r xs
  | option s v =>
      cases v with
      | none => rfl
      | some v => exact heedless_takeValue s v r xs

theorem heedless_place (w : Bytes) : Heedless (·.place w) := by
  intro r xs
  have hp : (r.withSwitches xs).placed = r.placed := rfl
  simp only [place, hp, heedless_settle r xs]
  split
  · rfl
  · cases r.settle <;> rfl

theorem heedless_option (s : Setting) (v : Option Bytes) : Heedless (·.option s v) := by
  intro r xs
  simp only [option, heedless_settle r xs]
  cases r.settle with
  | error e => rfl
  | ok r =>
      cases v with
      | none => rfl
      | some v =>
          have hv := heedless_takeValue s v r xs
          simp only [Except.map] at hv ⊢
          simp only [hv]
          cases r.takeValue s v <;> rfl

/-! ### What is indifferent to a switch met before -/

/-- Where the function succeeds, it keeps the switches, and it does the same if the switch `x` had
been met before, unless it meets that itself. -/
def Indifferent (x : Switch) (f : Reading → Except ε Reading) : Prop :=
  ∀ ⦃r r'⦄, f r = .ok r' → r.switches ⊆ r'.switches ∧
    (x ∉ r'.switches → f (r.precededBy x) = .ok (r'.precededBy x))

theorem Heedless.indifferent (hf : Heedless f) (x : Switch) : Indifferent x f := by
  intro r r' h
  have e := hf.switches_eq h
  refine ⟨e ▸ List.Subset.refl _, fun _ => ?_⟩
  rw [precededBy, precededBy, e]
  exact hf.eq_ok h _

theorem Indifferent.bind (hf : Indifferent x f) (hg : Indifferent x g) :
    Indifferent x fun r => f r >>= g := by
  intro r r'' h
  cases hr : f r with
  | error e => simp only [hr] at h; cases h
  | ok r' =>
      simp only [hr] at h
      obtain ⟨hsub, he⟩ := hf hr
      obtain ⟨hsub', he'⟩ := hg h
      refine ⟨List.Subset.trans hsub hsub', fun hx => ?_⟩
      simp only [he fun hm => hx (hsub' hm)]
      exact he' hx

/-- A choice that the switches have no part in. -/
theorem Indifferent.ite {c : Reading → Prop} [DecidablePred c]
    (hc : ∀ r xs, c (r.withSwitches xs) ↔ c r) (hf : Indifferent x f) (hg : Indifferent x g) :
    Indifferent x fun r => if c r then f r else g r := by
  intro r r' h
  have hp : c (r.precededBy x) ↔ c r := hc r _
  by_cases hr : c r
  · simp only [if_pos hr, if_pos (hp.2 hr)] at h ⊢
    exact hf h
  · simp only [if_neg hr, if_neg fun hc => hr (hp.1 hc)] at h ⊢
    exact hg h

theorem indifferent_switch (x y : Switch) : Indifferent x (·.switch y) := by
  intro r r' h
  simp only [switch] at h ⊢
  cases hs : r.settle with
  | error e => rw [hs] at h; cases h
  | ok r₁ =>
      have hswitches := heedless_settle.switches_eq hs
      rw [precededBy, heedless_settle.eq_ok hs]
      rw [hs] at h
      -- help and the version end the reading; the others are met once
      cases y
      case help => cases h
      case version => cases h
      all_goals
        simp only at h ⊢
        split at h
        case isTrue => cases h
        case isFalse hy =>
          cases h
          refine ⟨hswitches ▸ List.subset_cons_self _ _, fun hx => ?_⟩
          have hyx : _ ≠ x := fun e => hx (e ▸ List.mem_cons_self)
          rw [if_neg (by simp [hswitches ▸ hy, hyx])]
          simp [precededBy, withSwitches, hswitches]

theorem letters_cons (r : Reading) {c : Char} {y : Switch} (h : Switch.lettered? c = some y)
    (ps : List Utf8.Piece) : r.letters (some c :: ps) = r.switch y >>= (·.letters ps) := by
  simp only [letters, h]
  cases r.switch y <;> rfl

theorem indifferent_letters (x : Switch) : ∀ ps, Indifferent x (·.letters ps)
  | []           => fun _ _ h => by cases h; exact ⟨List.Subset.refl _, fun _ => rfl⟩
  | none :: _    => (heedless_error _).indifferent x
  | some c :: ps => by
      cases hc : Switch.lettered? c with
      | none => intro r r' h; simp only [letters, hc] at h; cases h
      | some y =>
          simp only [letters_cons _ hc]
          exact (indifferent_switch x y).bind (indifferent_letters x ps)

theorem indifferent_long (x : Switch) (body : Bytes) : Indifferent x (·.long body) := by
  intro r r' h
  cases hn : Switch.named? (Bytes.lossy (body.takeWhile (· ≠ octet '='))) with
  | some y =>
      by_cases hv : body.contains (octet '=')
      · simp only [long, hn, if_pos hv] at h
        cases h
      · simp only [long, hn, if_neg hv] at h ⊢
        exact indifferent_switch x y h
  | none =>
      cases hs : Setting.named? (Bytes.lossy (body.takeWhile (· ≠ octet '='))) with
      | some s =>
          simp only [long, hn, hs] at h ⊢
          exact (heedless_option s _).indifferent x h
      | none =>
          simp only [long, hn, hs] at h
          cases h

theorem indifferent_next (x : Switch) (w : Bytes) : Indifferent x (·.next w) := by
  have hplain : Indifferent x fun r => next.plain r w :=
    .ite (c := (·.held = .option .toolchain none)) (fun _ _ => Iff.rfl)
      (Heedless.indifferent (fun _ _ => rfl) x) ((heedless_place w).indifferent x)
  refine .ite (c := (·.wordsOnly = true)) (fun _ _ => Iff.rfl) ((heedless_place w).indifferent x) ?_
  refine .ite (c := (·.held = .option .toolchainArg none)) (fun _ _ => Iff.rfl)
    (Heedless.indifferent (fun _ _ => rfl) x) ?_
  cases w with
  | nil => exact hplain
  | cons b body =>
      refine .ite (c := fun _ => b ≠ octet '-' ∨ body.isEmpty) (fun _ _ => Iff.rfl) hplain ?_
      refine .ite (c := fun _ => body = [octet '-']) (fun _ _ => Iff.rfl)
        (Heedless.indifferent (fun _ _ => rfl) x) ?_
      exact .ite (c := fun _ => body.head? = some (octet '-')) (fun _ _ => Iff.rfl)
        (indifferent_long x body.tail) (indifferent_letters x (Utf8.pieces body))

theorem nextAll_cons (r : Reading) (w : Bytes) (ws : List Bytes) :
    r.nextAll (w :: ws) = r.next w >>= (·.nextAll ws) := by
  rw [nextAll]
  cases r.next w <;> rfl

theorem indifferent_nextAll (x : Switch) : ∀ ws, Indifferent x (·.nextAll ws)
  | []      => fun _ _ h => by cases h; exact ⟨List.Subset.refl _, fun _ => rfl⟩
  | w :: ws => by
      simp only [nextAll_cons]
      exact (indifferent_next x w).bind (indifferent_nextAll x ws)

/-! ### A dry run -/

/-- With `--dry-run` in front the same is requested, as a dry run. -/
theorem finish_precededBy_dryRun {q : Request} (h : r.finish = .ok q) :
    (q.dryRun = true ↔ .dryRun ∈ r.switches) ∧
      (r.precededBy .dryRun).finish = .ok { q with dryRun := true } := by
  unfold finish at h ⊢
  cases hs : r.settle with
  | error e => rw [hs] at h; cases h
  | ok r₁ =>
      rw [hs] at h
      have hswitches := heedless_settle.switches_eq hs
      rw [precededBy, heedless_settle.eq_ok hs]
      obtain ⟨words, toolchain, toolchainArgs, switches, held, wordsOnly⟩ := r₁
      subst hswitches
      match words, h with
      | _ :: _ :: _, h =>
        cases h
        simp [withSwitches]

end Reading

/-- **A request with `--dry-run` in front.**  It asks for the same as without, as a dry run, if it
is no dry run without. -/
theorem Request.ofWords_dryRun {ws : List Bytes} {q : Request} (h : ofWords ws = .ok q)
    (hd : q.dryRun = false) :
    ofWords (Text.encode "--dry-run".toList :: ws) = .ok { q with dryRun := true } := by
  have hfirst : Reading.start.next (Text.encode "--dry-run".toList) =
      .ok (Reading.start.precededBy .dryRun) := rfl
  unfold ofWords at h ⊢
  cases hr : Reading.start.nextAll ws with
  | error e => rw [hr] at h; cases h
  | ok r =>
      rw [hr] at h
      obtain ⟨hq, hf⟩ := Reading.finish_precededBy_dryRun h
      have hx : .dryRun ∉ r.switches := fun hm => by rw [hq.2 hm] at hd; cases hd
      have hall := (Reading.indifferent_nextAll .dryRun ws hr).2 hx
      simp only [Reading.nextAll, hfirst, hall]
      exact hf

end Imprint.Command
