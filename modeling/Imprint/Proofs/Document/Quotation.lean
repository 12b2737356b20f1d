import Imprint.Document.Quotation
import Imprint.Proofs.Text.Utf8

/-!
# Document — how a quoted text is read

Between its quotes a text is written character by character, each as itself or as an escape, and it
is read octet by octet.  `Reads` is a stretch of that reading in which no quote closes the text.  The
octets of a written character leave the reader where it was, with the octets of the character itself
added to those it has gathered.

* `reads_of_isPlain`, `reads_letter`, `reads_number`: a character that stands for itself, a letter
  after a backslash, and the digits of a number.
* `next_quote`: the closing quote brings out the text.
-/

namespace Imprint.Document

namespace Quotation

/-- Octets that are read on from one place inside a quoted text to another. -/
inductive Reads : Quotation → Bytes → Quotation → Prop where
  | nil (q : Quotation) : Reads q [] q
  | cons {q q₁ q' : Quotation} {b : UInt8} {bs : Bytes} (h : q.next b = .ok (.inl q₁))
      (t : Reads q₁ bs q') : Reads q (b :: bs) q'

theorem Reads.append {q q₁ q' : Quotation} {bs bs' : Bytes} (h : Reads q bs q₁)
    (h' : Reads q₁ bs' q') : Reads q (bs ++ bs') q' := by
  induction h with
  | nil => exact h'
  | cons h _ ih => exact .cons h (ih h')

/-! ### Characters that stand for themselves -/

/-- An octet that stands for itself between quotes. -/
def IsPlain (b : UInt8) : Prop := b ≠ octet '"' ∧ b ≠ octet '\\' ∧ ¬ b < 0x20

theorem next_of_isPlain {b : UInt8} (h : IsPlain b) (done : Bytes) :
    next ⟨done, .plain⟩ b = .ok (.inl ⟨b :: done, .plain⟩) := by
  obtain ⟨hq, hb, hc⟩ := h
  simp only [next, if_neg hq, if_neg hb, if_neg hc]

theorem reads_of_isPlain : ∀ {bs : Bytes}, (∀ b ∈ bs, IsPlain b) → ∀ done : Bytes,
    Reads ⟨done, .plain⟩ bs ⟨bs.reverse ++ done, .plain⟩
  | [],      _, _    => .nil _
  | b :: bs, h, done => by
      have hbs := reads_of_isPlain (fun b' hb' => h b' (List.mem_cons_of_mem b hb')) (b :: done)
      rw [List.reverse_cons, List.append_assoc]
      exact .cons (next_of_isPlain (h b List.mem_cons_self) done) hbs

/-- Of a character that is no quote, no backslash and not below U+0020, all octets are plain. -/
theorem isPlain_of_mem_encodeChar {c : Char} (hq : c ≠ '"') (hb : c ≠ '\\') (hc : 0x20 ≤ c.toNat) :
    ∀ b ∈ String.utf8EncodeChar c, IsPlain b := by
  intro b hmem
  by_cases h : c.toNat < 0x80
  · rw [Utf8.encodeChar_of_lt h, List.mem_singleton] at hmem
    subst hmem
    have hn := Utf8.toNat_octet h
    refine ⟨fun e => hq ?_, fun e => hb ?_, fun hlt => ?_⟩
    · exact Char.toNat_inj.1 (hn.symm.trans (congrArg UInt8.toNat e))
    · exact Char.toNat_inj.1 (hn.symm.trans (congrArg UInt8.toNat e))
    · rw [UInt8.lt_iff_toNat_lt, hn] at hlt
      exact Nat.not_le_of_gt hlt hc
  · have hle := Utf8.le_of_mem_encodeChar (Nat.le_of_not_gt h) b hmem
    refine ⟨?_, ?_, fun hlt => ?_⟩
    · rintro rfl; exact absurd hle (by decide)
    · rintro rfl; exact absurd hle (by decide)
    · exact absurd (Nat.lt_of_le_of_lt hle (UInt8.lt_iff_toNat_lt.1 hlt)) (by decide)

/-! ### Escapes -/

/-- A backslash and a letter. -/
theorem reads_letter {c l : Char} (hu : octet l ≠ octet 'u') (h : unescaped? (octet l) = some c)
    (done : Bytes) :
    Reads ⟨done, .plain⟩ [octet '\\', octet l]
      ⟨(String.utf8EncodeChar c).reverse ++ done, .plain⟩ := by
  have hescape : next ⟨done, .plain⟩ (octet '\\') = .ok (.inl ⟨done, .escape⟩) := rfl
  refine .cons hescape (.cons ?_ (.nil _))
  simp only [next, if_neg hu, h, push]

/-- The digits of an escape as they are read: three are gathered, and the fourth makes the number. -/
theorem reads_fourDigits {q' : Quotation} {high : Option Nat} {ds done : Bytes} {n : Nat}
    (hl : ds.length = 4) (hn : hexNumber? ds = some n)
    (h : pushValue ⟨done, .digits high (ds.take 3)⟩ high n = .ok q') :
    Reads ⟨done, .digits high []⟩ ds q' := by
  match ds, hl with
  | [a, b, c, d], _ =>
      refine .cons rfl <| .cons rfl <| .cons rfl <| .cons ?_ (.nil q')
      have hd : ¬ ([a, b, c] : Bytes).length < 3 := by simp
      have h' : pushValue ⟨done, .digits high [a, b, c]⟩ high n = .ok q' := h
      simp only [next, List.nil_append, List.cons_append, if_neg hd, hn, h']
      rfl

/-- A backslash, the letter `u` and four digits of a number that is no surrogate. -/
theorem reads_number {ds : Bytes} {n : Nat} (hl : ds.length = 4) (hn : hexNumber? ds = some n)
    (hlow : n < 0xd800 ∨ 0xdfff < n) (done : Bytes) :
    Reads ⟨done, .plain⟩ (octet '\\' :: octet 'u' :: ds)
      ⟨(String.utf8EncodeChar (Char.ofNat n)).reverse ++ done, .plain⟩ := by
  refine .cons rfl <| .cons rfl <| reads_fourDigits hl hn ?_
  simp only [pushValue, if_neg (show ¬ (0xd800 ≤ n ∧ n < 0xdc00) by omega),
    if_neg (show ¬ (0xdc00 ≤ n ∧ n < 0xe000) by omega), push]

/-! ### The closing quote -/

/-- The closing quote brings out the text. -/
theorem next_quote (t : Text) :
    next ⟨t.encode.reverse, .plain⟩ (octet '"') = .ok (.inr t) := by
  simp only [next, if_pos, List.reverse_reverse, Bytes.decode?_encode]

end Quotation

end Imprint.Document
