import Imprint.Proofs.LineCount.Chunks
import Imprint.Proofs.Text.Lines
import Imprint.Proofs.Text.Utf8

/-!
# Line count — the lines of a text

A text is cut into pieces at its newlines, and its octets are counted without being read as text.
Both find the same lines (`lines_encode`), because the octet of a newline stands for nothing else in
UTF-8 (`newline_mem_encode_iff`).  So a text that keeps its number of pieces keeps its count.
-/

namespace Imprint

/-! ### Newlines, encoded -/

theorem Text.encode_newline : encode ['\n'] = [newline] := rfl

theorem Text.newline_mem_encode_iff {t : Text} : newline ∈ t.encode ↔ '\n' ∈ t :=
  octet_mem_encode_iff (a := '\n') (by decide)

namespace LineCount

/-! ### Line by line -/

/-- Octets without a newline are one line, if there are any. -/
theorem lines_of_not_mem {bs : Bytes} (hne : bs ≠ []) (hn : newline ∉ bs) : lines bs = 1 := by
  have hu : Unfinished bs := ⟨hne, fun h => hn (List.mem_of_getLast? h)⟩
  rw [lines, List.count_eq_zero_of_not_mem hn, if_pos hu]

/-- What a newline ends is one line more. -/
theorem lines_append_newline {body : Bytes} (hn : newline ∉ body) (bs : Bytes) :
    lines (body ++ newline :: bs) = lines bs + 1 := by
  have hu : Unfinished (body ++ newline :: bs) ↔ Unfinished bs := by
    unfold Unfinished
    rw [List.getLast?_append_of_ne_nil body (List.cons_ne_nil newline bs)]
    cases bs with
    | nil => simp
    | cons b bs => simp
  rw [lines, List.count_append, List.count_cons_self, List.count_eq_zero_of_not_mem hn]
  simp only [hu, lines]
  omega

theorem lines_encode_flatten {ps : List Text} (h : Text.Lined ps) :
    lines (Text.encode ps.flatten) = ps.length := by
  induction h with
  | nil => rfl
  | rest hp hn =>
      rw [List.flatten_singleton, List.length_singleton]
      exact lines_of_not_mem (Text.encode_ne_nil hp) fun h => hn (Text.newline_mem_encode_iff.1 h)
  | cons hp _ ih =>
      obtain ⟨body, hb, rfl⟩ := hp
      have hb' : newline ∉ body.encode := fun h => hb (Text.newline_mem_encode_iff.1 h)
      rw [List.flatten_cons, Text.encode_append, Text.encode_append, Text.encode_newline,
        List.append_assoc, List.singleton_append, lines_append_newline hb', ih, List.length_cons]

/-- **The lines of a text.**  Its octets have as many lines as it has pieces. -/
theorem lines_encode (t : Text) : lines t.encode = t.pieces.length := by
  rw [← lines_encode_flatten (Text.lined_pieces t), Text.flatten_pieces]

/-- Octets that are all there are counted like octets in chunks. -/
theorem ofBytes_eq (bs : Bytes) : ofBytes bs = (lines bs).toUInt64 := by
  cases bs with
  | nil => rfl
  | cons b bs =>
      rw [ofBytes, ← Tally.of_nil, Tally.add_of [] (List.cons_ne_nil b bs), List.nil_append,
        Tally.total_of]

end LineCount

end Imprint
