import Imprint.Buffer

/-!
# Buffer — what is written

Pieces written one after the other leave in a buffer what their octets, put together, would leave
there as one piece: all of them if they fit, and otherwise as many as there is room for
(`writeAll_eq`).  Where one piece ends and the next begins does not show.  So a sink takes all of a
report, or the beginning of it and then refuses the rest (`Sink.refusal?_cases`).
-/

namespace Imprint

namespace Buffer

/-- **Pieces are written as one.** -/
theorem writeAll_eq (b : Buffer) (ps : List Text) :
    b.writeAll ps =
      if (Text.encode ps.flatten).length ≤ b.room then
        .ok ⟨b.written ++ Text.encode ps.flatten, b.room - (Text.encode ps.flatten).length⟩
      else .error ⟨b.written ++ (Text.encode ps.flatten).take b.room, 0⟩ := by
  induction ps generalizing b with
  | nil => simp [writeAll]
  | cons p ps ih =>
      rw [List.flatten_cons, Text.encode_append, List.length_append, writeAll, write]
      by_cases hp : p.encode.length ≤ b.room
      case neg =>
        -- what fits is a part of this piece
        have hall : ¬ p.encode.length + (Text.encode ps.flatten).length ≤ b.room := by omega
        simp only [if_neg hp, if_neg hall]
        rw [List.take_append_of_le_length (by omega)]
      case pos =>
        have htake : (p.encode ++ Text.encode ps.flatten).take b.room =
            p.encode ++ (Text.encode ps.flatten).take (b.room - p.encode.length) := by
          rw [List.take_append, List.take_of_length_le hp]
        have hfits : (Text.encode ps.flatten).length ≤ b.room - p.encode.length ↔
            p.encode.length + (Text.encode ps.flatten).length ≤ b.room := by omega
        simp only [if_pos hp]
        rw [ih, htake, List.append_assoc, List.append_assoc, ← Nat.sub_sub]
        simp only [hfits]

/-- What does not fit is cut off at the end of the room. -/
theorem writeAll_empty_of_lt {limit : Nat} {ps : List Text}
    (h : limit < (Text.encode ps.flatten).length) :
    (empty limit).writeAll ps = .error ⟨(Text.encode ps.flatten).take limit, 0⟩ := by
  rw [writeAll_eq, empty, if_neg (Nat.not_le.2 h), List.nil_append]

end Buffer

/-- **What becomes of a report.**  All of it arrives, or the sink has too little room for it, takes
as many octets as there is room for, and says why it refuses the rest. -/
theorem Sink.refusal?_cases (out : Sink) (ps : List Text) :
    (out.refusal? ps = none ∧ out.received ps = Text.encode ps.flatten) ∨
      ∃ room reason, out = .bounded room reason ∧ room < (Text.encode ps.flatten).length ∧
        out.refusal? ps = some reason ∧ out.received ps = (Text.encode ps.flatten).take room := by
  cases out with
  | endless => exact .inl ⟨rfl, rfl⟩
  | bounded room reason =>
      rw [refusal?, received, Buffer.writeAll_eq, Buffer.empty, List.nil_append, List.nil_append]
      by_cases hfit : (Text.encode ps.flatten).length ≤ room
      · exact .inl (by simp [hfit])
      · exact .inr ⟨room, reason, rfl, Nat.lt_of_not_le hfit, by simp [hfit]⟩

end Imprint
