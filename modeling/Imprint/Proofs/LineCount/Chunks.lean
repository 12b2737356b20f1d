import Imprint.LineCount
import Mathlib.Data.List.Basic
import Mathlib.Data.List.TakeWhile

/-!
# Line count — however the octets arrive

The tally after some octets depends on the octets alone (`Tally.of`), and adding a chunk to it is
the tally after the octets with the chunk behind them (`Tally.add_of`).  So what counts is what the
chunks make up together, up to the first empty one or the first failure.

* `ofChunks_of_failure?_eq_some`, `ofChunks_of_failure?_eq_none`: the two ways in which a count
  ends.
* `inRange_untilEnd`: octets that are fewer than the counter has numbers never take it out of its
  range.
* `ofChunks_cases`: the whole of it, for any chunks.
-/

namespace Imprint.LineCount

variable {ε : Type} {bs c : Bytes} {cs : List Bytes} {chunks rest : List (Except ε Bytes)} {e : ε}

/-- The octets are there and do not end with a newline. -/
def Unfinished (bs : Bytes) : Prop := bs ≠ [] ∧ bs.getLast? ≠ some newline

instance (bs : Bytes) : Decidable (Unfinished bs) := inferInstanceAs (Decidable (_ ∧ _))

/-- The number of lines: one for each newline, and one for octets after the last. -/
def lines (bs : Bytes) : Nat := bs.count newline + if Unfinished bs then 1 else 0

/-! ### The tally of octets -/

namespace Tally

/-- The tally after these octets. -/
def of (bs : Bytes) : Tally := ⟨(bs.count newline).toUInt64, Unfinished bs⟩

theorem of_nil : of [] = zero := rfl

/-- **A chunk more.**  What the tally is after it depends on the octets seen and not on where they
were cut. -/
theorem add_of (p : Bytes) (hc : c ≠ []) : (of p).add c = of (p ++ c) := by
  have hu : c.getLast? ≠ some newline ↔ Unfinished (p ++ c) := by
    rw [Unfinished, List.getLast?_append_of_ne_nil p hc]
    exact (and_iff_right (List.append_ne_nil_of_right_ne_nil p hc)).symm
  have hn : (p.count newline).toUInt64 + (c.count newline).toUInt64 =
      ((p ++ c).count newline).toUInt64 := by
    rw [List.count_append]
    exact (UInt64.ofNat_add _ _).symm
  simp only [add, of, hn, hu]

theorem foldl_add_of :
    ∀ {cs : List Bytes} (p : Bytes), (∀ c ∈ cs, c ≠ []) → cs.foldl add (of p) = of (p ++ cs.flatten)
  | [],      p, _ => by rw [List.foldl_nil, List.flatten_nil, List.append_nil]
  | c :: cs, p, h => by
      rw [List.foldl_cons, add_of p (h c List.mem_cons_self),
        foldl_add_of (p ++ c) fun d hd => h d (List.mem_cons_of_mem c hd), List.flatten_cons,
        List.append_assoc]

theorem total_of (bs : Bytes) : (of bs).total = (lines bs).toUInt64 := by
  by_cases h : Unfinished bs
  · simp only [total, of, lines, h, decide_true, if_true]
    exact (UInt64.ofNat_add _ 1).symm
  · simp only [total, of, lines, h, decide_false, if_false, Nat.add_zero]
    rfl

end Tally

/-- There are no more lines than octets. -/
theorem lines_le_length (bs : Bytes) : lines bs ≤ bs.length := by
  unfold lines
  split
  case isFalse => exact List.count_le_length
  case isTrue h =>
    obtain ⟨hne, hlast⟩ := h
    obtain ⟨front, b, rfl⟩ := (List.eq_nil_or_concat' bs).resolve_left hne
    have hb : b ≠ newline := by simpa using hlast
    have hfront : front.count newline ≤ front.length := List.count_le_length
    rw [List.count_append, List.count_singleton]
    simp [hb, hfront]

theorem Tally.toNat_newlines_of (h : bs.length < UInt64.size) :
    (of bs).newlines.toNat = bs.count newline :=
  UInt64.toNat_ofNat_of_lt' (Nat.lt_of_le_of_lt List.count_le_length h)

/-! ### The loop -/

/-- The chunks before the first empty one, which is what the end looks like. -/
def untilEnd (chunks : List (Except ε Bytes)) : List (Except ε Bytes) :=
  chunks.takeWhile fun
    | .ok bs   => ! bs.isEmpty
    | .error _ => true

/-- The octets of the chunks, put together. -/
def octets (chunks : List (Except ε Bytes)) : Bytes :=
  chunks.flatMap fun
    | .ok bs   => bs
    | .error _ => []

/-- The first failure among the chunks. -/
def failure? (chunks : List (Except ε Bytes)) : Option ε :=
  chunks.findSome? fun
    | .ok _    => none
    | .error e => some e

theorem octets_map_ok (cs : List Bytes) :
    octets (cs.map (.ok : Bytes → Except ε Bytes)) = cs.flatten := by
  rw [octets, List.flatMap_map, List.flatMap_id']

theorem octets_append (s s' : List (Except ε Bytes)) : octets (s ++ s') = octets s ++ octets s' :=
  List.flatMap_append ..

/-- No chunk that is read is empty. -/
theorem ne_nil_of_mem_untilEnd (h : .ok c ∈ untilEnd chunks) : c ≠ [] := by
  have hc := List.mem_takeWhile_imp h
  simpa using hc

theorem ne_nil_of_untilEnd_eq (h : untilEnd chunks = cs.map .ok ++ rest) : ∀ c ∈ cs, c ≠ [] := by
  intro c hc
  have hmem : .ok c ∈ untilEnd chunks := by rw [h]; simp [hc]
  exact ne_nil_of_mem_untilEnd hmem

/-- Chunks hold a failure or they are octets all the way. -/
theorem failure?_cases (s : List (Except ε Bytes)) :
    (failure? s = none ∧ ∃ cs : List Bytes, s = cs.map .ok) ∨
      ∃ (e : ε) (cs : List Bytes) (rest : List (Except ε Bytes)),
        failure? s = some e ∧ s = cs.map .ok ++ .error e :: rest := by
  induction s with
  | nil => exact .inl ⟨rfl, [], rfl⟩
  | cons x s ih =>
      cases x with
      | error e => exact .inr ⟨e, [], s, rfl, rfl⟩
      | ok c =>
          rcases ih with ⟨hf, cs, rfl⟩ | ⟨e, cs, rest, hf, rfl⟩
          · exact .inl ⟨hf, c :: cs, rfl⟩
          · exact .inr ⟨e, c :: cs, rest, hf, rfl⟩

/-- Nothing after the first empty chunk is read. -/
theorem countFrom_untilEnd : ∀ (t : Tally) (chunks : List (Except ε Bytes)),
    countFrom t (untilEnd chunks) = countFrom t chunks
  | _, []                    => rfl
  | _, .error _ :: _         => rfl
  | _, .ok [] :: _           => rfl
  | t, .ok (b :: bs) :: rest => countFrom_untilEnd (t.add (b :: bs)) rest

/-- The loop is at the tally of the chunks that it has read. -/
theorem countFrom_append (rest : List (Except ε Bytes)) :
    ∀ {cs : List Bytes} (t : Tally), (∀ c ∈ cs, c ≠ []) →
      countFrom t (cs.map .ok ++ rest) = countFrom (cs.foldl Tally.add t) rest
  | [],             _, _ => rfl
  | [] :: _,        _, h => absurd rfl (h [] List.mem_cons_self)
  | (b :: bs) :: _, t, h =>
    countFrom_append rest (t.add (b :: bs)) fun c hc => h c (List.mem_cons_of_mem _ hc)

/-- Octets in chunks that are not empty are counted as if they were all there. -/
theorem ofChunks_map_ok (h : ∀ c ∈ cs, c ≠ []) :
    ofChunks (cs.map (.ok : Bytes → Except ε Bytes)) = .ok (lines cs.flatten).toUInt64 := by
  rw [ofChunks, ← List.append_nil (cs.map _), countFrom_append [] .zero h, countFrom,
    ← Tally.of_nil, Tally.foldl_add_of [] h, List.nil_append, Tally.total_of]

/-- Where the chunks that are read hold a failure, the first one is the answer. -/
theorem ofChunks_of_failure?_eq_some (h : failure? (untilEnd chunks) = some e) :
    ofChunks chunks = .error e := by
  rw [ofChunks, ← countFrom_untilEnd]
  rcases failure?_cases (untilEnd chunks) with ⟨hno, -⟩ | ⟨e', cs, rest, he, hs⟩
  · rw [hno] at h
    cases h
  · obtain rfl : e' = e := Option.some.inj (he.symm.trans h)
    rw [hs, countFrom_append _ _ (ne_nil_of_untilEnd_eq hs), countFrom]

/-- Where they hold none, their octets are counted. -/
theorem ofChunks_of_failure?_eq_none (h : failure? (untilEnd chunks) = none) :
    ofChunks chunks = .ok (lines (octets (untilEnd chunks))).toUInt64 := by
  rw [ofChunks, ← countFrom_untilEnd]
  rcases failure?_cases (untilEnd chunks) with ⟨-, cs, hs⟩ | ⟨e, -, -, he, -⟩
  · have hcs := ne_nil_of_untilEnd_eq (hs.trans (List.append_nil _).symm)
    rw [hs, octets_map_ok, ← ofChunks_map_ok hcs, ofChunks]
  · rw [he] at h
    cases h

/-! ### The range of the counter -/

/-- No addition on the way through the chunks leaves the range of the counter: neither that of a
chunk to the tally of those before it, nor that of an unfinished line at the end. -/
structure InRange (s : List (Except ε Bytes)) : Prop where
  chunk : ∀ (before : List Bytes) (c : Bytes) (rest : List (Except ε Bytes)),
    s = before.map .ok ++ .ok c :: rest →
      (before.foldl Tally.add .zero).newlines.toNat + c.count newline < UInt64.size
  total : ∀ cs : List Bytes, s = cs.map .ok → (cs.foldl Tally.add .zero).unfinished →
    (cs.foldl Tally.add .zero).newlines.toNat + 1 < UInt64.size

theorem inRange_untilEnd (h : (octets (untilEnd chunks)).length < UInt64.size) :
    InRange (untilEnd chunks) where
  chunk before c rest e := by
    have hbefore := ne_nil_of_untilEnd_eq e
    have hoctets : octets (untilEnd chunks) = before.flatten ++ (c ++ octets rest) := by
      rw [e, octets_append, octets_map_ok]
      rfl
    rw [hoctets, List.length_append, List.length_append] at h
    have hcount : before.flatten.count newline ≤ before.flatten.length := List.count_le_length
    have hcount' : c.count newline ≤ c.length := List.count_le_length
    rw [← Tally.of_nil, Tally.foldl_add_of [] hbefore, List.nil_append,
      Tally.toNat_newlines_of (by omega)]
    omega
  total cs e hu := by
    have hcs := ne_nil_of_untilEnd_eq (e.trans (List.append_nil _).symm)
    rw [e, octets_map_ok] at h
    rw [← Tally.of_nil, Tally.foldl_add_of [] hcs, List.nil_append] at hu ⊢
    have hlines : lines cs.flatten = cs.flatten.count newline + 1 := by
      rw [lines, if_pos (of_decide_eq_true hu)]
    rw [Tally.toNat_newlines_of h, ← hlines]
    exact Nat.lt_of_le_of_lt (lines_le_length _) h

/-! ### What is counted -/

/-- **The count of octets that arrive in chunks.**  Only the chunks before the first empty one are
read.  If there is a failure among them, the first one is the answer.  Otherwise, if their octets
are fewer than `2 ^ 64`, the answer is their number of newlines, and one more if they do not end
with a newline; the counter never leaves its range, and the same octets cut into other chunks give
the same answer. -/
theorem ofChunks_cases (chunks : List (Except ε Bytes))
    (h : (octets (untilEnd chunks)).length < UInt64.size) :
    let s := untilEnd chunks
    (∀ e, failure? s = some e → ofChunks chunks = .error e) ∧
      (failure? s = none →
        (∃ n, ofChunks chunks = .ok n ∧ n.toNat = (octets s).count newline +
          if octets s ≠ [] ∧ (octets s).getLast? ≠ some newline then 1 else 0) ∧
        ∀ cs : List Bytes, (∀ c ∈ cs, c ≠ []) → cs.flatten = octets s →
          ofChunks (cs.map .ok) = ofChunks chunks) ∧
      InRange s := by
  intro s
  refine ⟨fun e => ofChunks_of_failure?_eq_some, fun hf => ?_, inRange_untilEnd h⟩
  have hn := ofChunks_of_failure?_eq_none hf
  refine ⟨⟨_, hn, ?_⟩, fun cs hcs e => ?_⟩
  · exact UInt64.toNat_ofNat_of_lt' (Nat.lt_of_le_of_lt (lines_le_length _) h)
  · rw [hn, ofChunks_map_ok hcs, e]

/-- Cuts right behind a newline, in front of one and within a character; what follows the empty
chunk is not read. -/
theorem ofChunks_cases_cut :
    let chunks : List (Except Nat Bytes) :=
      [.ok [97], .ok [10], .ok [0xc3], .ok [0xa9, 10, 98], .ok [], .error 7, .ok [10]]
    (octets (untilEnd chunks)).length < UInt64.size ∧
      (∃ n, ofChunks chunks = .ok n ∧ n.toNat = 3) ∧
      ofChunks [.ok [97, 10, 0xc3], .ok [0xa9, 10, 98]] = ofChunks chunks ∧
      InRange (untilEnd chunks) := by
  intro chunks
  have h : (octets (untilEnd chunks)).length < UInt64.size := by decide
  obtain ⟨-, hcount, hrange⟩ := ofChunks_cases chunks h
  obtain ⟨hn, hcut⟩ := hcount rfl
  exact ⟨h, hn, hcut [[97, 10, 0xc3], [0xa9, 10, 98]] (by decide) rfl, hrange⟩

end Imprint.LineCount
