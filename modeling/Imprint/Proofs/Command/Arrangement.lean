import Imprint.Proofs.Command.Switches
import Imprint.Proofs.Text.Utf8

/-!
# Command — words and choices in any order

A command line says two kinds of things: positional words, and *choices*, which are switches and
the values of options.  A `Mixed` line holds both in any order.

* `Reading.Settles`: a reading would have these words and choices, each kind in its own order, if
  what it holds were settled.  Whether a word or a value is still held does not matter to it.
* `Reading.place_cases`, `Reading.nextAll_spelled`: one word more, and one choice more, however it
  is spelled.  Only a fourth word ends the reading.
* `Request.ofWords_mixed`: a line asks for what its words and its choices ask for apart from each
  other, by induction on the line.
* `Request.ofWords_of_perm`: the order of the choices matters only between the arguments of the
  toolchain.
-/

namespace Imprint.Command

/-! ### Choices -/

/-- What a command line says beside its positional words. -/
inductive Choice where
  | value (s : Setting) (v : Text)
  | switch (s : Switch)
  deriving DecidableEq, Repr

namespace Choice

/-- The value that is given to the option. -/
def value? (s : Setting) : Choice → Option Text
  | .value s' v => if s' = s then some v else none
  | .switch _   => none

/-- The switch that is chosen. -/
def switch? : Choice → Option Switch
  | .value .. => none
  | .switch s => some s

/-- The values that are given to the option, in their order. -/
def valuesOf (s : Setting) (cs : List Choice) : List Text := cs.filterMap (value? s)

/-- The switches that are chosen, in their order. -/
def switchesOf (cs : List Choice) : List Switch := cs.filterMap switch?

/-- What may be chosen once is chosen at most once. -/
structure Once (cs : List Choice) : Prop where
  toolchain : (valuesOf .toolchain cs).length ≤ 1
  switches  : (switchesOf cs).Nodup

/-- The ways to write a choice.  The value of `--toolchain` begins with a dash only behind an equals
sign, unless the dash is all there is; an argument of the toolchain may be any word. -/
inductive Spelled : Choice → List Bytes → Prop where
  | apart {s : Setting} {v : Text} (h : s = .toolchainArg ∨ v.head? ≠ some '-' ∨ v = ['-']) :
      Spelled (.value s v) [Text.encode ('-' :: '-' :: s.name), v.encode]
  | joined (s : Setting) (v : Text) :
      Spelled (.value s v) [Text.encode ('-' :: '-' :: s.name ++ '=' :: v)]
  | long {s : Switch} (h : s ∈ [.dryRun, .json, .verbose]) : Spelled (.switch s) [s.shown.encode]
  | letter : Spelled (.switch .verbose) [Text.encode ['-', 'v']]

variable {cs ds : List Choice} {c : Choice}

@[simp] theorem valuesOf_append (s : Setting) :
    valuesOf s (cs ++ ds) = valuesOf s cs ++ valuesOf s ds := List.filterMap_append

@[simp] theorem switchesOf_append : switchesOf (cs ++ ds) = switchesOf cs ++ switchesOf ds :=
  List.filterMap_append

@[simp] theorem valuesOf_value (s s' : Setting) (v : Text) :
    valuesOf s [.value s' v] = if s' = s then [v] else [] := by
  cases s <;> cases s' <;> rfl

@[simp] theorem valuesOf_switch (s : Setting) (x : Switch) : valuesOf s [.switch x] = [] := rfl

@[simp] theorem switchesOf_switch (x : Switch) : switchesOf [.switch x] = [x] := rfl

@[simp] theorem switchesOf_value (s : Setting) (v : Text) : switchesOf [.value s v] = [] := rfl

theorem mem_switchesOf_iff {s : Switch} : s ∈ switchesOf cs ↔ .switch s ∈ cs := by
  constructor
  · intro h
    obtain ⟨c, hc, hs⟩ := List.mem_filterMap.1 h
    cases c with
    | value => cases hs
    | switch => cases hs; exact hc
  · exact fun h => List.mem_filterMap.2 ⟨_, h, rfl⟩

theorem Once.of_append (h : Once (cs ++ ds)) : Once cs where
  toolchain := by
    have ht := h.toolchain
    rw [valuesOf_append, List.length_append] at ht
    omega
  switches := by
    have hs := h.switches
    rw [switchesOf_append] at hs
    exact (List.nodup_append.1 hs).1

/-- Choices that are made at most once ask for the same in any order. -/
theorem Once.valuesOf_toolchain_of_perm (h : Once cs) (hp : ds.Perm cs) :
    valuesOf .toolchain ds = valuesOf .toolchain cs := by
  have hv : (valuesOf .toolchain ds).Perm (valuesOf .toolchain cs) := hp.filterMap _
  match hcs : valuesOf .toolchain cs, h.toolchain with
  | [], _  => exact (hcs ▸ hv).eq_nil
  | [v], _ => exact (hcs ▸ hv).eq_singleton

end Choice

open Choice

/-! ### What is asked for -/

/-- What is requested by two files, a version and choices. -/
def Request.chosen (cs : List Choice) (log target : Bytes) (version : Option Text) : Request where
  logFile       := log
  targetFile    := target
  version       := version
  toolchain     := (valuesOf .toolchain cs).head?
  toolchainArgs := if (valuesOf .toolchainArg cs).isEmpty then Toolchain.defaultArgs
    else valuesOf .toolchainArg cs
  dryRun        := .switch .dryRun ∈ cs
  json          := .switch .json ∈ cs
  verbose       := .switch .verbose ∈ cs

/-- What positional words and choices ask for, apart from each other. -/
def requested (cs : List Choice) : List Bytes → Except Stop Request
  | []                       => .error (.error (.missing [.logFile, .targetFile]))
  | [_]                      => .error (.error (.missing [.targetFile]))
  | [log, target]            => .ok (.chosen cs log target none)
  | [log, target, version]   => .ok (.chosen cs log target version.decode?)
  | _ :: _ :: _ :: word :: _ => .error (.error (.unexpected word.lossy))

/-- Words that are fit for their positions: the files have names, and the version is text. -/
structure Fit (ws : List Bytes) : Prop where
  files   : ∀ w ∈ ws.take 2, w ≠ []
  version : ∀ w, ws[2]? = some w → w.decode?.isSome

/-- A word that does not begin with a dash, unless the dash is all there is. -/
def Undashed (w : Bytes) : Prop := w.head? ≠ some (octet '-') ∨ w = [octet '-']

/-- A line in which words and choices stand in any order, each kind in its own.  Words that begin
with dashes stand after `--`, and so after every choice. -/
inductive Mixed : List Bytes → List Choice → List Bytes → Prop where
  | nil : Mixed [] [] []
  | word {w : Bytes} {ws line : List Bytes} {cs : List Choice} (hw : Undashed w)
      (h : Mixed ws cs line) : Mixed (w :: ws) cs (w :: line)
  | choice {c : Choice} {written ws line : List Bytes} {cs : List Choice} (hc : c.Spelled written)
      (h : Mixed ws cs line) : Mixed ws (c :: cs) (written ++ line)
  | wordsOnly (ws : List Bytes) : Mixed ws [] (Text.encode "--".toList :: ws)

theorem requested_ok_iff {cs : List Choice} :
    ∀ {ws : List Bytes}, (∃ r, requested cs ws = .ok r) ↔ ws.length = 2 ∨ ws.length = 3
  | [] | [_] | [_, _] | [_, _, _] => by simp [requested]
  | _ :: _ :: _ :: _ :: _         => by simp [requested]

theorem requested_append {cs : List Choice} {ws : List Bytes} (w : Bytes) (rest : List Bytes)
    (hlen : ws.length = 3) :
    requested cs (ws ++ w :: rest) = .error (.error (.unexpected w.lossy)) :=
  match ws, hlen with
  | [_, _, _], _ => rfl

theorem requested_of_perm {cs ds : List Choice} (h : Once cs) (hp : ds.Perm cs)
    (hargs : valuesOf .toolchainArg ds = valuesOf .toolchainArg cs) :
    requested ds = requested cs := by
  have hr : Request.chosen ds = Request.chosen cs := by
    funext log target version
    simp only [Request.chosen, h.valuesOf_toolchain_of_perm hp, hargs, hp.mem_iff]
  funext ws
  unfold requested
  rw [hr]

theorem undashed_encode {v : Text} (h : v.head? ≠ some '-' ∨ v = ['-']) : Undashed v.encode := by
  rcases h with h | rfl
  · exact .inl fun he => h ((Text.head?_encode_eq_iff (by decide)).1 he)
  · exact .inr rfl

theorem Setting.name_ne_nil (s : Setting) : s.name ≠ [] := by cases s <;> decide

theorem Switch.name_ne_nil (s : Switch) : s.name ≠ [] := by cases s <;> decide

namespace Reading

variable {r : Reading} {ws : List Bytes} {cs : List Choice} {b : Bool}

/-! ### What is read, settled -/

/-- A reading of words and choices with nothing held. -/
def settled (ws : List Bytes) (cs : List Choice) (b : Bool) : Reading :=
  ⟨ws, (valuesOf .toolchain cs).head?, valuesOf .toolchainArg cs, (switchesOf cs).reverse,
    .nothing, b⟩

/-- Settled, the reading has these words and choices. -/
def Settles (r : Reading) (ws : List Bytes) (cs : List Choice) (b : Bool) : Prop :=
  r.settle = .ok (settled ws cs b)

theorem Settles.settle_eq (h : r.Settles ws cs b) : r.settle = .ok (settled ws cs b) := h

theorem settles_settled : (settled ws cs b).Settles ws cs b := rfl

theorem takeValue_eq_ok {s : Setting} {v : Bytes} {r' : Reading} (h : r.takeValue s v = .ok r') :
    r'.words = r.words ∧ r'.wordsOnly = r.wordsOnly := by
  cases s <;> simp only [takeValue] at h <;> repeat' split at h
  all_goals cases h
  all_goals exact ⟨rfl, rfl⟩

theorem takeWord_eq_ok {w : Bytes} {r' : Reading} (h : r.takeWord w = .ok r') :
    r' = { r with words := r.words ++ [w], held := .nothing } := by
  unfold takeWord at h
  split at h <;> split at h <;> cases h <;> rfl

/-- What settling can do. -/
theorem settle_cases {r' : Reading} (h : r.settle = .ok r') :
    (r.held = .nothing ∧ r' = r) ∨
      (∃ w, r.held = .word w ∧ r' = { r with words := r.words ++ [w], held := .nothing }) ∨
      ∃ s v, r.held = .option s (some v) ∧ r.takeValue s v = .ok r' := by
  unfold settle at h
  cases hh : r.held with
  | nothing => rw [hh] at h; exact .inl ⟨rfl, (Except.ok.inj h).symm⟩
  | word w => rw [hh] at h; exact .inr (.inl ⟨w, rfl, takeWord_eq_ok h⟩)
  | option s v =>
      rw [hh] at h
      cases v with
      | none => cases h
      | some v => exact .inr (.inr ⟨s, v, rfl, h⟩)

/-- What is held is counted before it is settled. -/
theorem placed_of_settle {r' : Reading} (h : r.settle = .ok r') : r.placed = r'.words.length := by
  unfold placed
  rcases settle_cases h with ⟨hh, rfl⟩ | ⟨w, hh, rfl⟩ | ⟨s, v, hh, hv⟩
  · rw [hh]
    rfl
  · rw [hh, List.length_append]
    rfl
  · rw [hh, (takeValue_eq_ok hv).1]
    rfl

theorem wordsOnly_of_settle {r' : Reading} (h : r.settle = .ok r') :
    r.wordsOnly = r'.wordsOnly := by
  rcases settle_cases h with ⟨-, rfl⟩ | ⟨w, -, rfl⟩ | ⟨s, v, -, hv⟩
  · rfl
  · rfl
  · exact (takeValue_eq_ok hv).2.symm

theorem Settles.not_waiting (h : r.Settles ws cs b) (s : Setting) : r.held ≠ .option s none := by
  intro hh
  unfold Settles settle at h
  rw [hh] at h
  cases h

/-! ### One word more -/

theorem takeWord_of_fit {w : Bytes} {rest : List Bytes} (hf : Fit (r.words ++ w :: rest))
    (hlt : r.words.length < 3) :
    r.takeWord w = .ok { r with words := r.words ++ [w], held := .nothing } := by
  unfold takeWord
  match hr : r.words, hlt with
  | [], _ =>
      have hw : w ≠ [] := hf.files w (by simp [hr])
      simp [hw]
  | [_], _ =>
      have hw : w ≠ [] := hf.files w (by simp [hr])
      simp [hw]
  | [_, _], _ =>
      have hw : w.decode?.isSome := hf.version w (by simp [hr])
      simp [hw]

/-- A word is placed behind those that were read, unless it is the fourth. -/
theorem place_cases {w : Bytes} {rest : List Bytes} (h : r.Settles ws cs b)
    (hf : Fit (ws ++ w :: rest)) (hlen : ws.length ≤ 3) :
    (∃ r', r.place w = .ok r' ∧ r'.Settles (ws ++ [w]) cs b ∧
        (ws ++ [w]).length ≤ 3) ∨
      (r.place w = .error (.error (.unexpected w.lossy)) ∧ ws.length = 3) := by
  have hp : r.placed = ws.length := placed_of_settle h
  rw [place, hp]
  rcases Nat.lt_or_eq_of_le hlen with hlt | heq
  · refine .inl ⟨{ settled ws cs b with held := .word w }, ?_, takeWord_of_fit hf hlt, ?_⟩
    · rw [if_neg (Nat.not_le_of_lt hlt), h.settle_eq]
    · rw [List.length_append]
      exact hlt
  · exact .inr ⟨if_pos (Nat.le_of_eq heq.symm), heq⟩

/-- A word without a dash in front has no meaning of its own. -/
theorem next_eq_plain {w : Bytes} (hb : r.wordsOnly = false)
    (hh : r.held ≠ .option .toolchainArg none) (hw : Undashed w) : r.next w = next.plain r w := by
  unfold next
  rw [if_neg (ne_true_of_eq_false hb), if_neg hh]
  cases w with
  | nil => rfl
  | cons d body =>
      have hd : d ≠ octet '-' ∨ body.isEmpty := by
        rcases hw with hw | hw
        · exact .inl fun he => hw (by rw [he]; rfl)
        · exact .inr (by cases hw; rfl)
      exact if_pos hd

theorem next_of_undashed {w : Bytes} (h : r.Settles ws cs false)
    (hw : Undashed w) : r.next w = r.place w := by
  have hb : r.wordsOnly = false := wordsOnly_of_settle h
  rw [next_eq_plain hb (h.not_waiting .toolchainArg) hw]
  exact if_neg (h.not_waiting .toolchain)

/-- Settling has no part in where the words go on alone. -/
theorem settle_wordsOnly (r : Reading) (b : Bool) :
    ({ r with wordsOnly := b }).settle = r.settle.map fun r => { r with wordsOnly := b } := by
  obtain ⟨words, toolchain, toolchainArgs, switches, held, _⟩ := r
  cases held with
  | nothing => rfl
  | word w => simp only [settle, takeWord]; split <;> split <;> rfl
  | option s v =>
      cases v with
      | none => rfl
      | some v =>
          cases s with
          | toolchain =>
              cases toolchain with
              | none => simp only [settle, takeValue]; cases v.decode? <;> rfl
              | some t => rfl
          | toolchainArg => simp only [settle, takeValue]; cases v.decode? <;> rfl

/-- A dash with more behind it: two dashes alone, a long name, or letters. -/
theorem next_dash (h : r.Settles ws cs false) (d : UInt8) (body : Bytes) :
    r.next (octet '-' :: d :: body) =
      if d :: body = [octet '-'] then .ok { r with wordsOnly := true }
      else if some d = some (octet '-') then r.long body
      else r.letters (Utf8.pieces (d :: body)) := by
  have hb : r.wordsOnly = false := wordsOnly_of_settle h
  rw [next, if_neg (ne_true_of_eq_false hb), if_neg (h.not_waiting .toolchainArg)]
  exact if_neg (by simp)

theorem next_wordsOnly (h : r.Settles ws cs false) :
    ∃ r', r.next (Text.encode "--".toList) = .ok r' ∧ r'.Settles ws cs true := by
  refine ⟨{ r with wordsOnly := true }, (next_dash h _ _).trans (if_pos rfl), ?_⟩
  rw [Settles, settle_wordsOnly, h.settle_eq]
  rfl

/-! ### One choice more -/

/-- A value that may be given is taken behind those that were read. -/
theorem takeValue_settled {s : Setting} {v : Text} (hc : Once (cs ++ [.value s v])) (x : Held) :
    ({ settled ws cs b with held := x }).takeValue s v.encode =
      .ok (settled ws (cs ++ [.value s v]) b) := by
  cases s with
  | toolchain =>
      have hnone : valuesOf .toolchain cs = [] := by
        have hlen := hc.toolchain
        rw [valuesOf_append, List.length_append] at hlen
        exact List.length_eq_zero_iff.1 (Nat.le_zero.1 (Nat.le_of_succ_le_succ hlen))
      simp [takeValue, settled, Bytes.decode?_encode, hnone]
  | toolchainArg => simp [takeValue, settled, Bytes.decode?_encode]

/-- A switch that may be chosen is met before those that were read. -/
theorem switch_of_once {s : Switch} (h : r.Settles ws cs b)
    (hs : s ∈ [Switch.dryRun, .json, .verbose]) (hc : Once (cs ++ [.switch s])) :
    r.switch s = .ok (settled ws (cs ++ [.switch s]) b) := by
  have hnew : s ∉ (switchesOf cs).reverse := by
    have hn := hc.switches
    rw [switchesOf_append, List.nodup_append] at hn
    exact fun hm => hn.2.2 s (List.mem_reverse.1 hm) s List.mem_cons_self rfl
  have htaken : settled ws (cs ++ [.switch s]) b =
      { settled ws cs b with switches := s :: (switchesOf cs).reverse } := by
    simp [settled]
  rw [switch, h.settle_eq, htaken]
  -- the help and the version are no choices
  cases s
  case help => simp at hs
  case version => simp at hs
  all_goals exact if_neg hnew

/-- A word with two dashes and more is the long name of a switch or of an option. -/
theorem next_dashes {name : Text} (h : r.Settles ws cs false) (hn : name ≠ []) :
    r.next (Text.encode ('-' :: '-' :: name)) = r.long name.encode := by
  have hne : octet '-' :: name.encode ≠ [octet '-'] := fun he =>
    Text.encode_ne_nil hn (List.cons.inj he).2
  exact (next_dash h _ _).trans ((if_neg hne).trans (if_pos rfl))

theorem long_switch (r : Reading) (s : Switch) : r.long s.name.encode = r.switch s := by
  cases s <;> rfl

theorem long_apart (r : Reading) (s : Setting) : r.long s.name.encode = r.option s none := by
  cases s <;> rfl

theorem long_joined (r : Reading) (s : Setting) (v : Text) :
    r.long (Text.encode (s.name ++ '=' :: v)) = r.option s (some v.encode) := by
  cases s <;> rfl

theorem next_letter (h : r.Settles ws cs false) :
    r.next (Text.encode ['-', 'v']) = r.switch .verbose := by
  have hnext : r.next (Text.encode ['-', 'v']) = r.letters [some 'v'] := next_dash h (octet 'v') []
  rw [hnext, letters_cons r rfl]
  cases r.switch .verbose <;> rfl

/-- An option that waits takes the next word, whatever that is behind `--toolchain-arg`. -/
theorem next_waiting {s : Setting} {v : Text} (hr : r.held = .option s none)
    (hb : r.wordsOnly = false) (hv : s = .toolchainArg ∨ v.head? ≠ some '-' ∨ v = ['-']) :
    r.next v.encode = .ok { r with held := .option s (some v.encode) } := by
  cases s with
  | toolchain =>
      have hu : Undashed v.encode := undashed_encode (hv.resolve_left nofun)
      rw [next_eq_plain hb (by rw [hr]; exact nofun) hu]
      exact if_pos hr
  | toolchainArg =>
      unfold next
      rw [if_neg (ne_true_of_eq_false hb), if_pos hr]

/-- A choice, however it is spelled, is taken behind those that were read. -/
theorem nextAll_spelled {c : Choice} {written : List Bytes}
    (h : r.Settles ws cs false) (hw : c.Spelled written) (hc : Once (cs ++ [c])) :
    ∃ r', r.nextAll written = .ok r' ∧ r'.Settles ws (cs ++ [c]) false := by
  cases hw with
  | @apart s v hv =>
      let waiting : Reading := { settled ws cs false with held := .option s none }
      have hfirst : r.next (Text.encode ('-' :: '-' :: s.name)) = .ok waiting := by
        rw [next_dashes h s.name_ne_nil, long_apart]
        simp only [option, h.settle_eq, waiting]
      have hsecond := next_waiting (r := waiting) rfl rfl hv
      refine ⟨{ waiting with held := .option s (some v.encode) }, ?_, takeValue_settled hc _⟩
      simp only [nextAll, hfirst, hsecond]
  | joined s v =>
      have htaken : (settled ws cs false).takeValue s v.encode =
          .ok (settled ws (cs ++ [.value s v]) false) := takeValue_settled hc .nothing
      have hnext : r.next (Text.encode ('-' :: '-' :: s.name ++ '=' :: v)) =
          .ok (settled ws (cs ++ [.value s v]) false) := by
        rw [List.cons_append, List.cons_append, next_dashes h (by simp), long_joined]
        simp only [option, h.settle_eq, htaken]
      exact ⟨_, by rw [nextAll, hnext]; rfl, settles_settled⟩
  | @long s hs =>
      have hnext : r.next s.shown.encode = .ok (settled ws (cs ++ [.switch s]) false) := by
        rw [Switch.shown, next_dashes h s.name_ne_nil, long_switch, switch_of_once h hs hc]
      exact ⟨_, by rw [nextAll, hnext]; rfl, settles_settled⟩
  | letter =>
      have hnext : r.next (Text.encode ['-', 'v']) =
          .ok (settled ws (cs ++ [.switch .verbose]) false) := by
        rw [next_letter h, switch_of_once h (by simp) hc]
      exact ⟨_, by rw [nextAll, hnext]; rfl, settles_settled⟩

/-! ### The whole line -/

theorem nextAll_append (r : Reading) (ws ws' : List Bytes) :
    r.nextAll (ws ++ ws') = r.nextAll ws >>= (·.nextAll ws') := by
  induction ws generalizing r with
  | nil => rfl
  | cons w ws ih =>
      rw [List.cons_append, nextAll_cons, nextAll_cons]
      cases r.next w with
      | error e => rfl
      | ok r' => exact ih r'

/-- What was read is what is asked for where the line ends. -/
theorem finish_of_settle (h : r.Settles ws cs b) (hlen : ws.length ≤ 3) :
    r.finish = requested cs ws := by
  rw [finish, h.settle_eq]
  match ws, hlen with
  | [], _ | [_], _ => rfl
  | [_, _], _ | [_, _, _], _ => simp [settled, requested, Request.chosen, mem_switchesOf_iff]

/-- What a line asks for that goes on with words alone. -/
theorem finish_nextAll_words {rest : List Bytes} (h : r.Settles ws cs true)
    (hf : Fit (ws ++ rest)) (hlen : ws.length ≤ 3) :
    r.nextAll rest >>= finish = requested cs (ws ++ rest) := by
  induction rest generalizing r ws with
  | nil =>
      rw [List.append_nil]
      exact finish_of_settle h hlen
  | cons w rest ih =>
      have hnext : r.next w = r.place w := if_pos (wordsOnly_of_settle h)
      rw [nextAll_cons, hnext]
      rcases place_cases h hf hlen with ⟨r', hr', h', hlen'⟩ | ⟨he, hthree⟩
      · rw [hr', List.append_cons]
        exact ih h' (List.append_cons ws w rest ▸ hf) hlen'
      · rw [he, requested_append w rest hthree]
        rfl

/-- What a line asks for that goes on with words and choices in any order. -/
theorem finish_nextAll_mixed {rest line : List Bytes} {ds : List Choice}
    (hm : Mixed rest ds line) (h : r.Settles ws cs false) (hf : Fit (ws ++ rest))
    (hc : Once (cs ++ ds)) (hlen : ws.length ≤ 3) :
    r.nextAll line >>= finish = requested (cs ++ ds) (ws ++ rest) := by
  induction hm generalizing r ws cs with
  | nil =>
      rw [List.append_nil, List.append_nil]
      exact finish_of_settle h hlen
  | @word w rest line ds hw _ ih =>
      rw [nextAll_cons, next_of_undashed h hw]
      rcases place_cases h hf hlen with ⟨r', hr', h', hlen'⟩ | ⟨he, hthree⟩
      · rw [hr', List.append_cons]
        exact ih h' (List.append_cons ws w rest ▸ hf) hc hlen'
      · rw [he, requested_append w rest hthree]
        rfl
  | @choice c written rest line ds hw _ ih =>
      rw [List.append_cons] at hc ⊢
      obtain ⟨r', hr', h'⟩ := nextAll_spelled h hw hc.of_append
      rw [nextAll_append, hr']
      exact ih h' hf hc hlen
  | wordsOnly rest =>
      obtain ⟨r', hr', h'⟩ := next_wordsOnly h
      rw [nextAll_cons, hr', List.append_nil]
      exact finish_nextAll_words h' hf hlen

end Reading

/-- A line asks for what its words and its choices ask for apart from each other. -/
theorem Request.ofWords_mixed {ws line : List Bytes} {cs : List Choice} (hm : Mixed ws cs line)
    (hf : Fit ws) (hc : Once cs) : ofWords line = requested cs ws := by
  have h : Reading.start.Settles [] [] false := rfl
  have hfinish := Reading.finish_nextAll_mixed hm h hf hc (Nat.zero_le 3)
  rw [List.nil_append, List.nil_append] at hfinish
  rw [← hfinish, ofWords]
  cases Reading.start.nextAll line <;> rfl

/-- **Words and choices in any order.**  A line of fit words and of choices that are made at most
once requests something if there are two or three words.  What it requests, or why nothing, does not
depend on the order of the choices, as long as the arguments of the toolchain keep theirs, nor on
where they stand between the words, nor on how they are spelled. -/
theorem Request.ofWords_of_perm {ws line : List Bytes} {cs ds : List Choice} (hm : Mixed ws ds line)
    (hp : ds.Perm cs) (hargs : valuesOf .toolchainArg ds = valuesOf .toolchainArg cs)
    (hf : Fit ws) (hc : Once cs) :
    ((∃ r, ofWords line = .ok r) ↔ ws.length = 2 ∨ ws.length = 3) ∧
      ofWords line = requested cs ws := by
  have hd : Once ds := ⟨hc.valuesOf_toolchain_of_perm hp ▸ hc.toolchain,
    (hp.filterMap _).nodup_iff.2 hc.switches⟩
  have he : ofWords line = requested cs ws := by
    rw [ofWords_mixed hm hf hd, requested_of_perm hc hp hargs]
  exact ⟨he ▸ requested_ok_iff, he⟩

/-- Two dashes as an argument of the toolchain, a dash for the target, and a version behind `--`. -/
theorem Request.ofWords_of_perm_dashes :
    let text (s : String) : Text := s.toList
    let octets (s : String) : Bytes := Text.encode s.toList
    let args := [Choice.value .toolchainArg (text "--"), .value .toolchainArg (text "-V")]
    let ds := [.switch .json, args[0], .value .toolchain (text "rustc"), args[1], .switch .verbose]
    let cs := .value .toolchain (text "rustc") :: args ++ [.switch .verbose, .switch .json]
    let ws := [octets "log", octets "-", octets "-1"]
    let line := ["--json", "log", "--toolchain-arg", "--", "-", "--toolchain=rustc",
      "--toolchain-arg=-V", "-v", "--", "-1"].map octets
    let r : Request := ⟨octets "log", octets "-", some (text "-1"), some (text "rustc"),
      [text "--", text "-V"], false, true, true⟩
    (Mixed ws ds line ∧ ds.Perm cs ∧
      valuesOf .toolchainArg ds = valuesOf .toolchainArg cs ∧ Fit ws ∧ Once cs) ∧
      Request.ofWords line = .ok r := by
  intro text octets args ds cs ws line r
  have hm : Mixed ws ds line := by
    refine .choice (.long (by decide)) (.word (.inl (by decide)) ?_)
    refine .choice (.apart (.inl rfl)) (.word (.inr rfl) ?_)
    refine .choice (.joined ..) (.choice (.joined ..) (.choice .letter ?_))
    exact .wordsOnly _
  have hp : ds.Perm cs := by decide
  have hf : Fit ws := ⟨by decide, fun w hw => by cases hw; rfl⟩
  have hc : Once cs := ⟨by decide, by decide⟩
  exact ⟨⟨hm, hp, rfl, hf, hc⟩, (ofWords_of_perm hm hp rfl hf hc).2⟩

end Imprint.Command
