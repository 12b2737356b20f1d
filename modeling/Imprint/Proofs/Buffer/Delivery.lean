import Imprint.Proofs.Buffer.Written
import Imprint.Summary

/-!
# Buffer — a report, call by call

Here the writing of a report is taken apart into single calls.  A call hands octets to the buffer,
which takes what fits of them and says how many those are (`accept`); a piece is handed over from
where the last call left off, until all of it is taken or a call takes nothing (`offer`); and the
pieces of a report follow each other until one of them fails (`deliver`).

Such a delivery ends as `writeAll` does (`deliver_eq`).  So a buffer that is too small holds the
beginning of the report, cut within the first piece that does not fit, and what would come after
this piece is not asked for (`exists_cut`).
-/

namespace Imprint

namespace Buffer

/-- Why a piece is not delivered. -/
inductive Refusal where
  /-- A call took none of the octets that were still to be written. -/
  | writeZero
  deriving DecidableEq, Repr

/-- How a delivery ends, and the buffer after it. -/
abbrev Outcome := Except Refusal Unit × Buffer

/-- One call.  The buffer takes what fits of the octets and says how many those are. -/
def accept (b : Buffer) (bs : Bytes) : Nat × Buffer :=
  let n := min bs.length b.room
  (n, ⟨b.written ++ bs.take n, b.room - n⟩)

/-- The calls for one piece. -/
def offer (b : Buffer) : Bytes → Outcome
  | []      => (.ok (), b)
  | c :: bs =>
    match b.accept (c :: bs) with
    | (0,     b) => (.error .writeZero, b)
    | (n + 1, b) => b.offer (bs.drop n)
termination_by bs => bs.length

/-- The calls for all pieces, in order, up to the first that fails. -/
def deliver (b : Buffer) : List Text → Outcome
  | []      => (.ok (), b)
  | p :: ps =>
    match b.offer p.encode with
    | (.ok (),   b) => b.deliver ps
    | (.error e, b) => (.error e, b)

/-! ### Calls and pieces -/

/-- How a delivery ends that leaves the buffer so. -/
def outcome : Except Buffer Buffer → Outcome
  | .ok b    => (.ok (), b)
  | .error b => (.error .writeZero, b)

/-- A full buffer takes nothing. -/
theorem offer_full (written : Bytes) {bs : Bytes} (hbs : bs ≠ []) :
    offer ⟨written, 0⟩ bs = (.error .writeZero, ⟨written, 0⟩) := by
  obtain ⟨c, bs, rfl⟩ := List.exists_cons_of_ne_nil hbs
  have ha : accept ⟨written, 0⟩ (c :: bs) = (0, ⟨written, 0⟩) := by simp [accept]
  rw [offer, ha]

/-- **The calls for a piece.**  If the piece fits, one call takes it.  If it does not, a call takes
what fits and the next takes nothing. -/
theorem offer_eq (b : Buffer) (bs : Bytes) : b.offer bs = outcome (b.write bs) := by
  cases bs with
  | nil => simp [offer, write, outcome]
  | cons c bs =>
      rw [offer, write]
      by_cases hfit : (c :: bs).length ≤ b.room
      case pos =>
        rw [if_pos hfit, accept, Nat.min_eq_left hfit, List.take_length]
        simp [offer, outcome]
      case neg =>
        rw [if_neg hfit, accept, Nat.min_eq_right (by omega)]
        cases hroom : b.room with
        | zero => simp [outcome]
        | succ n =>
            have hrest : bs.drop n ≠ [] := fun h => by
              have hl := List.drop_eq_nil_iff.1 h
              rw [List.length_cons] at hfit
              omega
            rw [Nat.sub_self]
            exact offer_full _ hrest

/-- **A delivery ends as the writing of its pieces does.** -/
theorem deliver_eq : ∀ (b : Buffer) (ps : List Text), b.deliver ps = outcome (b.writeAll ps)
  | _, []      => rfl
  | b, p :: ps => by
      rw [deliver, writeAll, offer_eq]
      cases b.write p.encode with
      | ok b => exact deliver_eq b ps
      | error b => rfl

/-- What an empty buffer holds after a delivery. -/
theorem deliver_empty (limit : Nat) (ps : List Text) :
    (empty limit).deliver ps =
      if (Text.encode ps.flatten).length ≤ limit then
        (.ok (), ⟨Text.encode ps.flatten, limit - (Text.encode ps.flatten).length⟩)
      else (.error .writeZero, ⟨(Text.encode ps.flatten).take limit, 0⟩) := by
  rw [deliver_eq, writeAll_eq, empty, List.nil_append, List.nil_append]
  split
  · rfl
  · rfl

/-- The buffer holds the first octets, as many as there is room for. -/
theorem written_deliver (limit : Nat) (ps : List Text) :
    ((empty limit).deliver ps).2.written =
      (Text.encode ps.flatten).take (min limit (Text.encode ps.flatten).length) := by
  rw [deliver_empty]
  split
  case isTrue h => rw [Nat.min_eq_right h, List.take_length]
  case isFalse h => rw [Nat.min_eq_left (Nat.le_of_not_le h)]

/-- A delivery succeeds if there is room for all of it. -/
theorem deliver_eq_ok_iff (limit : Nat) (ps : List Text) :
    ((empty limit).deliver ps).1 = .ok () ↔ (Text.encode ps.flatten).length ≤ limit := by
  rw [deliver_empty]
  split
  case isTrue h => exact iff_of_true rfl h
  case isFalse h => exact iff_of_false (fun e => by cases e) h

/-- Pieces of the same text are written as they are delivered. -/
theorem writeAll_eq_deliver (limit : Nat) {ps qs : List Text} (h : ps.flatten = qs.flatten) :
    (empty limit).writeAll ps =
      if (Text.encode qs.flatten).length ≤ limit then .ok ((empty limit).deliver qs).2
      else .error ((empty limit).deliver qs).2 := by
  rw [writeAll_eq, deliver_empty, empty, h, List.nil_append, List.nil_append]
  split
  · rfl
  · rfl

/-- A piece that does not fit ends the delivery, whatever comes after it. -/
theorem deliver_cut (before : List Text) {p : Text} {k : Nat} (hk : k < p.encode.length)
    (after : List Text) :
    (empty ((Text.encode before.flatten).length + k)).deliver (before ++ p :: after) =
      (.error .writeZero, ⟨Text.encode before.flatten ++ p.encode.take k, 0⟩) := by
  have hall : Text.encode (before ++ p :: after).flatten =
      Text.encode before.flatten ++ (p.encode ++ Text.encode after.flatten) := by
    rw [List.flatten_append, List.flatten_cons, Text.encode_append, Text.encode_append]
  rw [deliver_empty, hall, if_neg (by simp only [List.length_append]; omega),
    List.take_length_add_append, List.take_append_of_le_length (Nat.le_of_lt hk)]

/-- Where a text does not fit, there is a first piece that does not. -/
theorem exists_piece_of_lt {room : Nat} :
    ∀ {ps : List Text}, room < (Text.encode ps.flatten).length →
      ∃ before p after, ps = before ++ p :: after ∧
        ∃ k < p.encode.length, room = (Text.encode before.flatten).length + k
  | [],      h => absurd h (Nat.not_lt_zero room)
  | p :: ps, h => by
      rw [List.flatten_cons, Text.encode_append, List.length_append] at h
      by_cases hp : room < p.encode.length
      case pos => exact ⟨[], p, ps, rfl, room, hp, (Nat.zero_add room).symm⟩
      case neg =>
        have hrest : room - p.encode.length < (Text.encode ps.flatten).length := by omega
        obtain ⟨before, q, after, rfl, k, hk, e⟩ := exists_piece_of_lt hrest
        refine ⟨p :: before, q, after, rfl, k, hk, ?_⟩
        rw [List.flatten_cons, Text.encode_append, List.length_append]
        omega

/-- **Where a delivery stops.**  If there is not room for all, one piece is the first that does not
fit.  The delivery ends in it, and would if other pieces came after it. -/
theorem exists_cut {limit : Nat} {ps : List Text}
    (h : limit < (Text.encode ps.flatten).length) :
    ∃ before p after, ps = before ++ p :: after ∧ ∃ k < p.encode.length,
      ∀ qs, (empty limit).deliver (before ++ p :: qs) =
        (.error .writeZero, ⟨Text.encode before.flatten ++ p.encode.take k, 0⟩) := by
  obtain ⟨before, p, after, e, k, hk, rfl⟩ := exists_piece_of_lt h
  exact ⟨before, p, after, e, k, hk, deliver_cut before hk⟩

end Buffer

/-! ### Reports -/

namespace Report

/-- **A bounded buffer receives the beginning of a report.**  It holds the first octets of the report,
as many as there is room for, and the delivery succeeds if that is all of them.  If not, it fails
because a call took nothing.  There is a piece that did not fit then: the buffer holds the pieces
before it, a part of it that is not the whole, and nothing else, and pieces other than those that
follow would make no difference.  How the report is cut into pieces does not matter to what is
written. -/
theorem deliver_cases (r : Report) (m : Metadata) (limit : Nat) :
    let all := Text.encode (r.text m)
    let d := (Buffer.empty limit).deliver (r.pieces m)
    d.2.written = all.take (min limit all.length) ∧
    (d.1 = .ok () ↔ all.length ≤ limit) ∧
    (limit < all.length → d.1 = .error .writeZero ∧
      ∃ before p after, r.pieces m = before ++ p :: after ∧
        (∃ k < p.encode.length, d.2.written = Text.encode before.flatten ++ p.encode.take k) ∧
        ∀ ps, (Buffer.empty limit).deliver (before ++ p :: ps) = d) ∧
    ∀ ps : List Text, ps.flatten = r.text m →
      (Buffer.empty limit).writeAll ps = if all.length ≤ limit then .ok d.2 else .error d.2 := by
  intro all d
  have hall : Text.encode (r.pieces m).flatten = all := by rw [flatten_pieces]
  refine ⟨?_, ?_, fun hlt => ?_, fun ps e => ?_⟩
  · rw [← hall]
    exact Buffer.written_deliver limit (r.pieces m)
  · rw [← hall]
    exact Buffer.deliver_eq_ok_iff limit (r.pieces m)
  · obtain ⟨before, p, after, e, k, hk, hcut⟩ := Buffer.exists_cut (hall.symm ▸ hlt)
    have hd : d = (.error .writeZero, ⟨Text.encode before.flatten ++ p.encode.take k, 0⟩) := by
      rw [← hcut after, ← e]
    refine ⟨congrArg Prod.fst hd, before, p, after, e, ⟨k, hk, ?_⟩, fun ps => ?_⟩
    · rw [hd]
    · rw [hd, hcut]
  · rw [← hall]
    exact Buffer.writeAll_eq_deliver limit (e.trans (flatten_pieces r m).symm)

end Report

end Imprint
