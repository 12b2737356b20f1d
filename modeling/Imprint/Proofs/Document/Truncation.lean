import Imprint.Proofs.Buffer.Written
import Imprint.Proofs.Document.RoundTrip

/-!
# Document — one that is cut short

In reading a printed document, every state before the closing brace wants more octets: `State.Reads`
says so of each stretch of the reading.  So wherever the octets of the object end too early, be it
within a character, an escape, a key or between two members, the document is refused as truncated
and for no other reason (`read_take_object`).  A buffer too small for a document holds the
beginning of one, and cannot be taken for other metadata.
-/

namespace Imprint.Document

/-- Before the end of a stretch, the octets read so far are those of a document cut short. -/
theorem State.Reads.finish_take {s s' : State} {bs : Bytes} (h : Reads s bs s') :
    ∀ {k : Nat}, k < bs.length →
      ∃ s₁, s.run (bs.take k) = .ok s₁ ∧ s₁.finish = .error .truncated := by
  induction h with
  | nil => intro k hk; exact absurd hk (Nat.not_lt_zero k)
  | @cons s s₁ _ b bs hw h _ ih =>
      intro k hk
      cases k with
      | zero => exact ⟨s, rfl, hw⟩
      | succ k =>
          obtain ⟨s₂, hs₂, hf⟩ := ih (Nat.lt_of_succ_lt_succ hk)
          refine ⟨s₂, ?_, hf⟩
          rw [List.take_succ_cons, State.run, h]
          exact hs₂

theorem flatten_pieces (m : Metadata) : (pieces m).flatten = object m ++ ['\n'] := rfl

/-- **A document cut short is known to be.**  Any number of octets of a printed object that is less
than all of them is refused as truncated.  The same octets are what a buffer with room for no more
holds once the document has been written to it. -/
theorem read_take_object (m : Metadata) {k : Nat} (hk : k < (Text.encode (object m)).length) :
    read ((Text.encode (object m)).take k) = .error .truncated ∧
      ∃ b, (Buffer.empty k).writeAll (pieces m) = .error b ∧ read b.written = .error .truncated := by
  have hread : read ((Text.encode (object m)).take k) = .error .truncated := by
    obtain ⟨s, hs, hf⟩ := (State.reads_object m).finish_take hk
    rw [read, hs]
    exact hf
  have hlt : k < (Text.encode (pieces m).flatten).length := by
    rw [flatten_pieces, Text.encode_append, List.length_append]
    omega
  refine ⟨hread, _, Buffer.writeAll_empty_of_lt hlt, ?_⟩
  -- the newline at the end of the document is out of the buffer's reach
  rw [flatten_pieces, Text.encode_append, List.take_append_of_le_length (Nat.le_of_lt hk)]
  exact hread

/-- The cut falls within a character of three octets in the toolchain's value. -/
theorem read_take_object_within_character :
    let m : Metadata := ⟨"1".toList, "\u2028".toList, "\"".toList, none⟩
    let k := 50
    k < (Text.encode (object m)).length ∧
      read ((Text.encode (object m)).take k) = .error .truncated ∧
      ∃ b, (Buffer.empty k).writeAll (pieces m) = .error b ∧
        read b.written = .error .truncated := by
  intro m k
  have hk : k < (Text.encode (object m)).length := by decide
  exact ⟨hk, read_take_object m hk⟩

end Imprint.Document
