import Imprint.Text

/-!
# Text — classes of characters

A class of characters is written as the ranges of its code points, both ends included, in
ascending order and with a gap between any two.  `Ranges.has_iff` says that a character belongs to
such a class exactly when one of the ranges holds it.
-/

namespace Imprint.Text

/-- Ranges of code points, both ends included. -/
abbrev Ranges := List (Nat × Nat)

namespace Ranges

/-- Each range ends where it begins or later, and begins after the end of the one before, but not
right after it. -/
def ascending : Ranges → Bool
  | []      => true
  | r :: rs => r.1 ≤ r.2 && rs.head?.all (r.2 + 1 < ·.1) && ascending rs

/-- The character belongs to the class: it is held by the first range that does not end before
it. -/
def has (rs : Ranges) (c : Char) : Bool :=
  (rs.dropWhile fun r => r.2 < c.toNat).head?.any fun r => r.1 ≤ c.toNat

theorem lt_of_mem {r s : Nat × Nat} :
    ∀ {rs : Ranges}, ascending (r :: rs) = true → s ∈ rs → r.2 < s.1
  | [],      _, hs => by cases hs
  | q :: rs, h, hs => by
      simp only [ascending, List.head?_cons, Option.all_some, Bool.and_eq_true,
        decide_eq_true_eq] at h
      rcases List.mem_cons.mp hs with rfl | hs
      · omega
      · have hq : ascending (q :: rs) = true := by simp [ascending, h]
        have := lt_of_mem hq hs
        omega

/-- A character belongs to an ascending class exactly when one of its ranges holds it. -/
theorem has_iff {c : Char} : ∀ {rs : Ranges}, ascending rs = true →
    (has rs c = true ↔ ∃ r ∈ rs, r.1 ≤ c.toNat ∧ c.toNat ≤ r.2)
  | [],      _ => by simp [has]
  | r :: rs, h => by
      by_cases hr : r.2 < c.toNat
      · have hrs : ascending rs = true := by simp_all [ascending]
        have ih := has_iff (c := c) hrs
        have : has (r :: rs) c = has rs c := by simp [has, hr]
        rw [this, ih]
        constructor
        · exact fun ⟨s, hs, hc⟩ => ⟨s, List.mem_cons_of_mem _ hs, hc⟩
        · rintro ⟨s, hs, hc⟩
          rcases List.mem_cons.mp hs with rfl | hs
          · omega
          · exact ⟨s, hs, hc⟩
      · have : has (r :: rs) c = decide (r.1 ≤ c.toNat) := by simp [has, hr]
        rw [this, decide_eq_true_eq]
        constructor
        · exact fun h => ⟨r, List.mem_cons_self .., h, by omega⟩
        · rintro ⟨s, hs, hc⟩
          rcases List.mem_cons.mp hs with rfl | hs
          · exact hc.1
          · have := lt_of_mem h hs
            omega

end Ranges

end Imprint.Text
