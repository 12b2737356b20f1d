import Imprint.Proofs.Text.Utf8

/-!
# Text — octets shown as a text

Octets that are no text can be shown as one, and an octet of ASCII among them always stands for
itself: what an unfinished character owes is never such an octet, so a character that is cut off
there comes out as U+FFFD and takes nothing of what follows with it.

* `Utf8.next_ascii`: in every state that can be reached, an octet of ASCII pays off what is owed and
  brings out its character.
* `Bytes.lossy_append_octet`: so octets are shown in two parts, before and after an octet of ASCII.
* `Bytes.lossy_encode_append`: a text is shown as it is, whatever octets follow.
-/

namespace Imprint

namespace Utf8

variable {owed : Owed} {c : Char}

/-! ### What is owed -/

/-- No octet of ASCII goes on with what is owed. -/
def Owed.AboveAscii : Owed → Prop
  | .nothing        => True
  | .more _ _ low _ => 0x80 ≤ low

theorem aboveAscii_first (b : UInt8) : (first b).2.AboveAscii := by
  unfold first
  repeat' split
  all_goals simp [Owed.AboveAscii]

theorem aboveAscii_next (owed : Owed) (b : UInt8) : (next owed b).2.AboveAscii := by
  cases owed with
  | nothing => exact aboveAscii_first b
  | more value left low high =>
      by_cases hb : low ≤ b ∧ b ≤ high
      · cases left <;> simp [next, hb, Owed.AboveAscii]
      · simp only [next, if_neg hb]
        exact aboveAscii_first b

/-! ### Octets of ASCII -/

theorem first_octet (hc : c.toNat < 0x80) : first (octet c) = ([some c], .nothing) := by
  rw [octet, Nat.toUInt8, first_one c.toNat hc, Char.ofNat_toNat]

/-- An octet of ASCII ends what is unfinished and stands for itself. -/
theorem next_ascii (h : owed.AboveAscii) (hc : c.toNat < 0x80) :
    next owed (octet c) = (close owed ++ [some c], .nothing) := by
  cases owed with
  | nothing => exact first_octet hc
  | more value left low high =>
      have hlow : ¬ (low ≤ octet c ∧ octet c ≤ high) := by
        have h' : 0x80 ≤ low.toNat := UInt8.le_iff_toNat_le.1 h
        rw [UInt8.le_iff_toNat_le, toNat_octet hc]
        omega
      simp only [next, if_neg hlow, first_octet hc]
      rfl

theorem piecesFrom_nil (owed : Owed) : piecesFrom [] owed [] = close owed := by
  cases owed <;> rfl

/-- What comes out before an octet of ASCII is what comes out where the octets end there. -/
theorem piecesFrom_append_octet (hc : c.toNat < 0x80) (rest : Bytes) :
    ∀ (bs : Bytes) {owed : Owed}, owed.AboveAscii →
      piecesFrom [] owed (bs ++ octet c :: rest) = piecesFrom [] owed bs ++ some c :: pieces rest
  | [],      owed, h => by
      rw [List.nil_append, piecesFrom_cons, next_ascii h hc, piecesFrom_nil, List.append_assoc]
      rfl
  | b :: bs, owed, _ => by
      rw [List.cons_append, piecesFrom_cons, piecesFrom_cons,
        piecesFrom_append_octet hc rest bs (aboveAscii_next owed b), List.append_assoc]

theorem pieces_append_octet (hc : c.toNat < 0x80) (bs rest : Bytes) :
    pieces (bs ++ octet c :: rest) = pieces bs ++ some c :: pieces rest :=
  piecesFrom_append_octet hc rest bs trivial

end Utf8

namespace Bytes

/-- **An octet of ASCII stands for itself**, whatever stands before it. -/
theorem lossy_append_octet {c : Char} (hc : c.toNat < 0x80) (bs rest : Bytes) :
    lossy (bs ++ octet c :: rest) = lossy bs ++ c :: lossy rest := by
  rw [lossy, Utf8.pieces_append_octet hc, Utf8.shown, List.map_append, List.map_cons]
  rfl

/-- **A text is shown as it is.** -/
theorem lossy_encode_append (t : Text) (bs : Bytes) : lossy (t.encode ++ bs) = t ++ lossy bs := by
  rw [lossy, Utf8.pieces_encode_append, Utf8.shown, List.map_append, List.map_map]
  exact congrArg (· ++ lossy bs) (List.map_id t)

theorem lossy_encode (t : Text) : lossy t.encode = t := by
  have h := lossy_encode_append t []
  rwa [List.append_nil, show lossy [] = [] from rfl, List.append_nil] at h

/-- Characters of two, three and four octets are cut off in turn, and only the octets that are there
are lost. -/
example : lossy ([0xc3, octet 'a', 0xe2, 0x82, octet ' ', 0xf0, 0x9f, 0x92, octet 'b', 0xf0] : Bytes) =
    "\uFFFDa\uFFFD \uFFFDb\uFFFD".toList := by decide

end Bytes

end Imprint
