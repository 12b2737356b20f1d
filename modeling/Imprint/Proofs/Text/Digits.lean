import Mathlib.Algebra.Ring.Nat
import Mathlib.Data.Nat.Log
import Imprint.Text

/-!
# Text — digits by their place

`numeral? b` reads a text as a number to the base `b`: a digit counts its value times the power of
`b` for the places after it.  What is read of a number's own digits is the number
(`numeral?_toDigits`), with zeros in front or without (`numeral?_padded`).

Digits that are as many stand for numbers below the same power of the base.  So a difference in a
place outweighs all places after it, and texts of one length are in the order of the numbers that
they stand for (`lt_iff_of_numeral?`); padded numbers of one width are in the order of the numbers
(`padded_lt_iff`).
-/

namespace Imprint

/-! ### The digits of a number -/

/-- The digits of a number are digits of its base. -/
theorem mem_toDigits {b : Nat} (hb : 1 < b) {c : Char} (n : Nat) (hc : c ∈ Nat.toDigits b n) :
    ∃ d < b, c = d.digitChar := by
  induction n using Nat.strongRecOn with
  | ind n ih =>
      rw [Nat.toDigits_eq_if hb] at hc
      split at hc
      case isTrue h => exact ⟨n, h, List.mem_singleton.1 hc⟩
      case isFalse h =>
        rcases List.mem_append.1 hc with hc | hc
        · exact ih (n / b) (Nat.div_lt_self (by omega) hb) hc
        · exact ⟨n % b, Nat.mod_lt n (by omega), List.mem_singleton.1 hc⟩

/-- A padded number is made of digits. -/
theorem mem_leftpad_toDigits {b : Nat} (hb : 1 < b) {c : Char} {k n : Nat}
    (hc : c ∈ (Nat.toDigits b n).leftpad k '0') : ∃ d < b, c = d.digitChar := by
  rw [List.leftpad, List.mem_append] at hc
  rcases hc with hc | hc
  · exact ⟨0, by omega, (List.mem_replicate.1 hc).2⟩
  · exact mem_toDigits hb n hc

/-- A number has as many digits as it takes powers of the base to get beyond it. -/
theorem length_toDigits {b : Nat} (hb : 1 < b) (n : Nat) :
    (Nat.toDigits b n).length = Nat.log b n + 1 := by
  refine Nat.le_antisymm ?_ (Nat.lt_of_not_le fun h => ?_)
  · exact (Nat.length_toDigits_le_iff hb (Nat.succ_pos _)).2 (Nat.lt_pow_succ_log_self hb n)
  · -- fewer digits could not reach the highest place
    have hlog : 0 < Nat.log b n := Nat.lt_of_lt_of_le Nat.length_toDigits_pos h
    have hn : n ≠ 0 := by rintro rfl; simp at hlog
    have hlt := (Nat.length_toDigits_le_iff hb hlog).1 h
    exact absurd (Nat.pow_log_le_self b hn) (Nat.not_le.2 hlt)

namespace Text

/-! ### Reading digits -/

/-- The number that a character stands for as a digit; the letters from `a` to `f` come after the
nine. -/
def digit? (c : Char) : Option Nat :=
  if '0' ≤ c ∧ c ≤ '9' then some (c.toNat - '0'.toNat)
  else if 'a' ≤ c ∧ c ≤ 'f' then some (10 + (c.toNat - 'a'.toNat))
  else none

/-- The number that a text stands for to the base `b`, the highest place first, if it holds digits
of this base and nothing else. -/
def numeral? (b : Nat) : Text → Option Nat
  | []     => some 0
  | c :: t => do
    let d ← digit? c
    let n ← numeral? b t
    if d < b then some (d * b ^ t.length + n) else none

example : numeral? 16 "12a".toList = some 298 := by decide
example : numeral? 10 "12a".toList = none := by decide

/-- A base whose digits are among these. -/
class IsBase (b : Nat) : Prop where
  one_lt  : 1 < b
  le_last : b ≤ 16

instance : IsBase 10 := ⟨by decide, by decide⟩

instance : IsBase 16 := ⟨by decide, by decide⟩

theorem digit?_digitChar : ∀ d < 16, digit? d.digitChar = some d := by decide

variable {b k m n : Nat} {c : Char} {s t : Text}

/-- Where the digits stand among the characters. -/
theorem toNat_of_digit? {d : Nat} (h : digit? c = some d) :
    (d < 10 ∧ c.toNat = 48 + d) ∨ (10 ≤ d ∧ c.toNat = 87 + d) := by
  have hle : ∀ {e e' : Char}, e ≤ e' → e.toNat ≤ e'.toNat := UInt32.le_iff_toNat_le.1
  unfold digit? at h
  split at h
  case isTrue hc =>
    have h0 : 48 ≤ c.toNat := hle hc.1
    have h9 : c.toNat ≤ 57 := hle hc.2
    have hd : c.toNat - 48 = d := Option.some.inj h
    omega
  case isFalse =>
    split at h
    case isTrue hc =>
      have ha : 97 ≤ c.toNat := hle hc.1
      have hd : 10 + (c.toNat - 97) = d := Option.some.inj h
      omega
    case isFalse => cases h

/-- Digits are in the order of their values. -/
theorem lt_iff_of_digit? {c' : Char} {d d' : Nat} (h : digit? c = some d)
    (h' : digit? c' = some d') : c < c' ↔ d < d' := by
  rw [show c < c' ↔ c.toNat < c'.toNat from UInt32.lt_iff_toNat_lt]
  have hc := toNat_of_digit? h
  have hc' := toNat_of_digit? h'
  omega

theorem eq_iff_of_digit? {c' : Char} {d d' : Nat} (h : digit? c = some d)
    (h' : digit? c' = some d') : c = c' ↔ d = d' := by
  rw [← Char.toNat_inj]
  have hc := toNat_of_digit? h
  have hc' := toNat_of_digit? h'
  omega

theorem numeral?_cons_eq_some :
    numeral? b (c :: t) = some n ↔
      ∃ d < b, digit? c = some d ∧ ∃ k, numeral? b t = some k ∧ n = d * b ^ t.length + k := by
  constructor
  · intro h
    obtain ⟨d, hc, h⟩ := Option.bind_eq_some_iff.1 h
    obtain ⟨k, ht, h⟩ := Option.bind_eq_some_iff.1 h
    split at h
    case isTrue hd => exact ⟨d, hd, hc, k, ht, (Option.some.inj h).symm⟩
    case isFalse => cases h
  · rintro ⟨d, hd, hc, k, ht, rfl⟩
    simp [numeral?, hc, ht, hd]

/-- Digits stand for less than the power of the base that comes after their places. -/
theorem numeral?_lt : ∀ {t : Text} {n : Nat}, numeral? b t = some n → n < b ^ t.length
  | [],     _, h => by cases h; exact Nat.one_pos
  | c :: t, n, h => by
      obtain ⟨d, hd, -, k, hk, rfl⟩ := numeral?_cons_eq_some.1 h
      calc d * b ^ t.length + k
          < d * b ^ t.length + b ^ t.length := Nat.add_lt_add_left (numeral?_lt hk) _
        _ = (d + 1) * b ^ t.length := (Nat.succ_mul ..).symm
        _ ≤ b * b ^ t.length := Nat.mul_le_mul_right _ hd
        _ = b ^ (c :: t).length := Nat.pow_succ'.symm

/-- Digits in front count for the places of those behind them. -/
theorem numeral?_append (ht : numeral? b t = some n) :
    ∀ {s : Text} {m : Nat}, numeral? b s = some m →
      numeral? b (s ++ t) = some (m * b ^ t.length + n)
  | [],     _, hs => by cases hs; simpa using ht
  | c :: s, m, hs => by
      obtain ⟨d, hd, hc, k, hk, rfl⟩ := numeral?_cons_eq_some.1 hs
      refine numeral?_cons_eq_some.2 ⟨d, hd, hc, _, numeral?_append ht hk, ?_⟩
      have hl : (s.append t).length = s.length + t.length := List.length_append
      rw [hl, Nat.pow_add, Nat.add_mul, Nat.mul_assoc, Nat.add_assoc]

section Base

variable [hb : IsBase b]

theorem numeral?_singleton {d : Nat} (hd : d < b) : numeral? b [d.digitChar] = some d :=
  numeral?_cons_eq_some.2
    ⟨d, hd, digit?_digitChar d (Nat.lt_of_lt_of_le hd hb.le_last), 0, rfl, by simp⟩

/-- **What is read of a number's digits is the number.** -/
theorem numeral?_toDigits (n : Nat) : numeral? b (Nat.toDigits b n) = some n := by
  have hone := hb.one_lt
  induction n using Nat.strongRecOn with
  | ind n ih =>
      rw [Nat.toDigits_eq_if hone]
      split
      case isTrue h => exact numeral?_singleton h
      case isFalse h =>
        have hlast : numeral? b [(n % b).digitChar] = some (n % b) :=
          numeral?_singleton (Nat.mod_lt n (by omega))
        rw [numeral?_append hlast (ih (n / b) (Nat.div_lt_self (by omega) hone))]
        simp [Nat.div_add_mod']

/-- Zeros in front change nothing. -/
theorem numeral?_leftpad (k : Nat) (ht : numeral? b t = some n) :
    numeral? b (t.leftpad k '0') = some n := by
  rw [List.leftpad]
  induction k - t.length with
  | zero => exact ht
  | succ k ih =>
      rw [List.replicate_succ, List.cons_append]
      exact numeral?_cons_eq_some.2 ⟨0, Nat.lt_of_succ_lt hb.one_lt, by decide, n, ih, by simp⟩

/-- The first digit of a number is a zero only if the number is. -/
theorem eq_zero_of_head?_toDigits (h : (Nat.toDigits b n).head? = some '0') : n = 0 := by
  obtain ⟨t, e⟩ := List.head?_eq_some_iff.1 h
  obtain ⟨d, -, hd, k, hk, hn⟩ := numeral?_cons_eq_some.1 (e ▸ numeral?_toDigits (b := b) n)
  obtain rfl : 0 = d := Option.some.inj hd
  -- the zero takes the highest place, and what is left is too little for a number with so many
  have hlt : n < b ^ Nat.log b n := by
    have hl : t.length = Nat.log b n := by
      have hl := length_toDigits hb.one_lt n
      rw [e] at hl
      exact Nat.succ.inj hl
    rw [← hl, hn, Nat.zero_mul, Nat.zero_add]
    exact numeral?_lt hk
  by_contra hne
  exact absurd (Nat.pow_log_le_self b hne) (Nat.not_le.2 hlt)

end Base

/-! ### The order of digits -/

/-- A higher place outweighs those after it. -/
theorem place_lt_iff {p d d' k k' : Nat} (hk : k < p) (hk' : k' < p) :
    d * p + k < d' * p + k' ↔ d < d' ∨ d = d' ∧ k < k' := by
  have hgap : ∀ {e e' l l' : Nat}, l < p → e < e' → e * p + l < e' * p + l' := by
    intro e e' l l' hl he
    calc e * p + l
        < (e + 1) * p := by rw [Nat.succ_mul]; omega
      _ ≤ e' * p := Nat.mul_le_mul_right p he
      _ ≤ e' * p + l' := Nat.le_add_right ..
  rcases Nat.lt_trichotomy d d' with h | rfl | h
  · simp [h, hgap hk h]
  · simp
  · have hlt : d' * p + k' < d * p + k := hgap hk' h
    omega

/-- **Texts of one length are in the order of the numbers that they stand for.** -/
theorem lt_iff_of_numeral? : ∀ {s t : Text} {m n : Nat}, s.length = t.length →
    numeral? b s = some m → numeral? b t = some n → (s < t ↔ m < n)
  | [],     [],      _, _, _, hs, ht => by cases hs; cases ht; simp
  | c :: s, c' :: t, _, _, hl, hs, ht => by
      have hl' : s.length = t.length := Nat.succ.inj hl
      obtain ⟨d, -, hc, k, hk, rfl⟩ := numeral?_cons_eq_some.1 hs
      obtain ⟨d', -, hc', k', hk', rfl⟩ := numeral?_cons_eq_some.1 ht
      have hlt : k < b ^ t.length := hl' ▸ numeral?_lt hk
      have hlt' : k' < b ^ t.length := numeral?_lt hk'
      rw [List.cons_lt_cons_iff, lt_iff_of_digit? hc hc', eq_iff_of_digit? hc hc',
        lt_iff_of_numeral? hl' hk hk', hl', place_lt_iff hlt hlt']

/-- Texts with fronts of one length are in the order of the fronts, then of the rests. -/
theorem append_lt_append_iff :
    ∀ {s s' : Text}, s.length = s'.length →
      ∀ t t' : Text, s ++ t < s' ++ t' ↔ s < s' ∨ s = s' ∧ t < t'
  | [],     [],      _, _, _ => by simp
  | c :: s, c' :: s', h, t, t' => by
      rw [List.cons_append, List.cons_append, List.cons_lt_cons_iff, List.cons_lt_cons_iff,
        append_lt_append_iff (Nat.succ.inj h), List.cons.injEq]
      grind

/-! ### Padded numbers -/

/-- The digits of a number, with zeros in front to make them so many. -/
def padded (b k n : Nat) : Text := (Nat.toDigits b n).leftpad k '0'

section Padded

variable [hb : IsBase b]

theorem numeral?_padded (k n : Nat) : numeral? b (padded b k n) = some n :=
  numeral?_leftpad k (numeral?_toDigits n)

theorem padded_inj : padded b k m = padded b k n ↔ m = n := by
  refine ⟨fun h => ?_, fun h => by rw [h]⟩
  have hn := congrArg (numeral? b) h
  rwa [numeral?_padded, numeral?_padded, Option.some.injEq] at hn

theorem length_padded (k n : Nat) : (padded b k n).length = max k (Nat.log b n + 1) := by
  rw [padded, List.length_leftpad, length_toDigits hb.one_lt]

/-- A number of no more digits takes the width. -/
theorem length_padded_of_lt (hk : 0 < k) (hn : n < b ^ k) : (padded b k n).length = k := by
  rw [padded, List.length_leftpad, Nat.max_eq_left]
  exact (Nat.length_toDigits_le_iff hb.one_lt hk).2 hn

/-- **Padded numbers are in the order of the numbers**, where the width is enough for both. -/
theorem padded_lt_iff (hk : 0 < k) (hm : m < b ^ k) (hn : n < b ^ k) :
    padded b k m < padded b k n ↔ m < n :=
  lt_iff_of_numeral? ((length_padded_of_lt hk hm).trans (length_padded_of_lt hk hn).symm)
    (numeral?_padded k m) (numeral?_padded k n)

end Padded

end Text

end Imprint
