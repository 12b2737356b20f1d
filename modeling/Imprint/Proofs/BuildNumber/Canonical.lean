import Imprint.BuildNumber
import Imprint.Proofs.Text.Digits

/-!
# Build number — one writing for each number

`read?` takes a build string back to a number.  A number in writing is read as itself
(`read?_toText`), so no two numbers have the same writing.  The writing has the digits of the number
and as many zeros in front as make them six; as longer numbers are greater and numbers of one length
are in the order of their digits, the shorter of two build strings belongs to the smaller number, and
of two that are equally long the one that comes first (`lt_iff_toText`).

`toText_canonical` has all of this together, with what it means for the build strings of logs: they
tell the number of lines, but for the two greatest counts, which share one.
-/

namespace Imprint.BuildNumber

theorem toText_eq (n : UInt64) : toText n = '0' :: 'x' :: Text.padded 16 6 n.toNat := rfl

/-- The number that a build string stands for. -/
def read? : Text → Option Nat
  | '0' :: 'x' :: c :: ds => Text.numeral? 16 (c :: ds)
  | _                     => none

theorem length_toText (n : UInt64) :
    (toText n).length = max 8 (2 + (Nat.log 16 n.toNat + 1)) := by
  rw [toText_eq, List.length_cons, List.length_cons, Text.length_padded]
  omega

/-- A zero in front is there to make the digits six. -/
theorem length_of_head?_padded {n : Nat} (h : (Text.padded 16 6 n).head? = some '0') :
    (Text.padded 16 6 n).length = 6 := by
  by_cases hl : 6 ≤ (Nat.toDigits 16 n).length
  case pos =>
    -- nothing is put in front of the number, which begins with a zero only if it is zero
    have hp : Text.padded 16 6 n = Nat.toDigits 16 n := by
      rw [Text.padded, List.leftpad, Nat.sub_eq_zero_of_le hl, List.replicate_zero,
        List.nil_append]
    obtain rfl : n = 0 := Text.eq_zero_of_head?_toDigits (hp ▸ h)
    exact absurd hl (by decide)
  case neg => rw [Text.padded, List.length_leftpad]; omega

/-- **A number in writing is read as itself.** -/
theorem read?_toText (n : UInt64) : read? (toText n) = some n.toNat := by
  have h : Text.numeral? 16 (Text.padded 16 6 n.toNat) = some n.toNat := Text.numeral?_padded 6 _
  rw [toText_eq]
  cases hp : Text.padded 16 6 n.toNat with
  | nil =>
      have hl : (Text.padded 16 6 n.toNat).length = _ := Text.length_padded 6 n.toNat
      rw [hp, List.length_nil] at hl
      omega
  | cons c ds => rwa [hp] at h

theorem toText_injective : Function.Injective toText := fun n m h => by
  have hr := congrArg read? h
  rw [read?_toText, read?_toText, Option.some.injEq] at hr
  exact UInt64.toNat_inj.1 hr

/-- A greater number is not written shorter. -/
theorem length_toText_le {n m : UInt64} (h : n.toNat ≤ m.toNat) :
    (toText n).length ≤ (toText m).length := by
  have hlog : Nat.log 16 n.toNat ≤ Nat.log 16 m.toNat := Nat.log_mono_right h
  rw [length_toText, length_toText]
  omega

/-- **The order of build strings.**  Of two numbers the smaller is the one whose writing is shorter,
or comes first where both are equally long. -/
theorem lt_iff_toText (n m : UInt64) :
    n < m ↔ (toText n).length < (toText m).length ∨
      (toText n).length = (toText m).length ∧ toText n < toText m := by
  rw [UInt64.lt_iff_toNat_lt]
  rcases Nat.lt_trichotomy (toText n).length (toText m).length with hl | hl | hl
  · have hlt : n.toNat < m.toNat :=
      Nat.lt_of_not_le fun h => Nat.not_le.2 hl (length_toText_le h)
    exact iff_of_true hlt (.inl hl)
  · -- equally long, they are told apart by their digits
    have hp : (Text.padded 16 6 n.toNat).length = (Text.padded 16 6 m.toNat).length := by
      simpa [toText_eq] using hl
    rw [← Text.lt_iff_of_numeral? hp (Text.numeral?_padded 6 _) (Text.numeral?_padded 6 _),
      toText_eq, toText_eq]
    simp [hp]
  · refine iff_of_false (fun h => ?_) fun h => ?_
    · exact Nat.not_le.2 hl (length_toText_le (Nat.le_of_lt h))
    · rcases h with h | ⟨h, -⟩
      · exact Nat.lt_asymm h hl
      · exact Nat.ne_of_gt hl h

/-- The build string of a log tells the number of its lines and one, up to the greatest number. -/
theorem read?_buildString (lines : UInt64) :
    read? (buildString lines) = some (min (lines.toNat + 1) (2 ^ 64 - 1)) := by
  have hsize : UInt64.size = 2 ^ 64 := rfl
  rw [buildString, read?_toText, toNat_ofLines, hsize]

/-- Logs share a build string if they have the same number of lines, or if both have one of the two
greatest. -/
theorem buildString_eq_iff (a b : UInt64) :
    buildString a = buildString b ↔ a = b ∨ 2 ^ 64 - 2 ≤ a.toNat ∧ 2 ^ 64 - 2 ≤ b.toNat := by
  have ha := a.toNat_lt
  have hb := b.toNat_lt
  have hread : buildString a = buildString b ↔
      min (a.toNat + 1) (2 ^ 64 - 1) = min (b.toNat + 1) (2 ^ 64 - 1) := by
    refine ⟨fun h => ?_, fun h => congrArg toText (UInt64.toNat_inj.1 ?_)⟩
    · have hr := congrArg read? h
      rwa [read?_buildString, read?_buildString, Option.some.injEq] at hr
    · rw [toNat_ofLines, toNat_ofLines]
      exact h
  rw [hread, ← UInt64.toNat_inj]
  omega

/-- **Build numbers have one writing each.**  It is `0x` and hexadecimal digits in small letters that
stand for the number, eight characters or as many as the number needs, and its digits begin with a
zero only if they are six.  Different numbers are written differently, and the order of numbers is
that of the lengths of what is written, then of the characters.  So a build string tells how many
lines were counted, unless they are so many that the next number is out of range. -/
theorem toText_canonical :
    (∀ n : UInt64, ∃ ds : Text, toText n = '0' :: 'x' :: ds ∧
      (∀ c ∈ ds, c ∈ "0123456789abcdef".toList) ∧ Text.numeral? 16 ds = some n.toNat ∧
      (toText n).length = max 8 (2 + (Nat.log 16 n.toNat + 1)) ∧
      (ds.head? = some '0' → ds.length = 6)) ∧
    Function.Injective toText ∧
    (∀ n m : UInt64, n < m ↔ (toText n).length < (toText m).length ∨
      (toText n).length = (toText m).length ∧ toText n < toText m) ∧
    (∀ lines : UInt64, read? (buildString lines) = some (min (lines.toNat + 1) (2 ^ 64 - 1))) ∧
    (∀ a b : UInt64, buildString a = buildString b ↔
      a = b ∨ 2 ^ 64 - 2 ≤ a.toNat ∧ 2 ^ 64 - 2 ≤ b.toNat) := by
  refine ⟨fun n => ⟨Text.padded 16 6 n.toNat, toText_eq n, fun c hc => ?_,
    Text.numeral?_padded 6 n.toNat, length_toText n, length_of_head?_padded⟩,
    toText_injective, lt_iff_toText, read?_buildString, buildString_eq_iff⟩
  obtain ⟨d, hd, rfl⟩ := mem_leftpad_toDigits (by decide) hc
  exact (by decide : ∀ d < 16, Nat.digitChar d ∈ "0123456789abcdef".toList) d hd

end Imprint.BuildNumber
