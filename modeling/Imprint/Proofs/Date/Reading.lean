import Imprint.Date
import Imprint.Proofs.Text.Digits
import Mathlib.Data.List.Basic

/-!
# Date — read back from its writing

The year takes four characters or more, and a minus sign is the same character as a separator.  But
month and day take two digits each, so a date is read from its end: the last six characters are those
of month and day, and what is before them is the year (`read?`).  What is read of a date in writing
is the date (`read?_toText`).

The years from 0 to 9999 take four digits and no sign.  Their dates are ten characters long, and the
order of these is the order in time (`toText_lt_iff`).
-/

namespace Imprint.Date

/-! ### Reading -/

/-- The year that a text stands for, with a sign or without. -/
def readYear? : Text → Option Int
  | '+' :: ds => (Text.numeral? 10 ds).map Int.ofNat
  | '-' :: ds => (Text.numeral? 10 ds).map fun n => -Int.ofNat n
  | ds        => (Text.numeral? 10 ds).map Int.ofNat

/-- The date that a text stands for: a year, two digits for the month and two for the day. -/
def read? (t : Text) : Option Date :=
  let front := t.length - 6
  match t.drop front with
  | ['-', m₁, m₀, '-', d₁, d₀] => do
    ofNumbers? (← readYear? (t.take front)) (← Text.numeral? 10 [m₁, m₀])
      (← Text.numeral? 10 [d₁, d₀])
  | _                          => none

theorem ofNumbers?_eq_some (d : Date) : ofNumbers? d.year d.month d.day = some d := by
  rw [ofNumbers?, dif_pos d.valid]

/-- The month in two digits. -/
def monthText (d : Date) : Text := Text.padded 10 2 d.month

/-- The day in two digits. -/
def dayText (d : Date) : Text := Text.padded 10 2 d.day

/-- The text of a date, from its parts. -/
theorem toText_eq (d : Date) :
    d.toText = yearText d.year ++ ('-' :: d.monthText ++ '-' :: d.dayText) :=
  List.append_assoc ..

theorem month_lt (d : Date) : d.month < 100 := by
  have h := d.valid.2.1.2
  omega

theorem day_lt (d : Date) : d.day < 100 := by
  have h := d.valid.2.2.2
  have hl : monthLength d.year d.month ≤ 31 := by
    unfold monthLength
    split_ifs <;> omega
  omega

theorem length_monthText (d : Date) : d.monthText.length = 2 :=
  Text.length_padded_of_lt (by decide) d.month_lt

theorem length_dayText (d : Date) : d.dayText.length = 2 :=
  Text.length_padded_of_lt (by decide) d.day_lt

/-! ### Years -/

/-- A number is a year without a sign. -/
theorem readYear?_of_numeral? {t : Text} {n : Nat} (h : Text.numeral? 10 t = some n) :
    readYear? t = some (n : Int) := by
  unfold readYear?
  split
  -- no sign is a digit
  case h_1 => obtain ⟨d, -, hd, -⟩ := Text.numeral?_cons_eq_some.1 h; cases hd
  case h_2 => obtain ⟨d, -, hd, -⟩ := Text.numeral?_cons_eq_some.1 h; cases hd
  case h_3 => rw [h]; rfl

/-- The number of a year, without its sign. -/
def yearNumber (year : Int) : Text := Text.padded 10 4 year.natAbs

/-- The three ways in which a year is written. -/
theorem yearText_cases (year : Int) :
    (year < 0 ∧ yearText year = '-' :: yearNumber year) ∨
      ((0 ≤ year ∧ year ≤ 9999) ∧ yearText year = yearNumber year) ∨
      (9999 < year ∧ yearText year = '+' :: yearNumber year) := by
  by_cases hneg : year < 0
  · refine .inl ⟨hneg, ?_⟩
    rw [yearText, if_neg (by omega), if_neg (by omega)]
    rfl
  · by_cases hle : year ≤ 9999
    · refine .inr (.inl ⟨⟨by omega, hle⟩, ?_⟩)
      rw [yearText, if_pos ⟨by omega, hle⟩]
      rfl
    · refine .inr (.inr ⟨by omega, ?_⟩)
      rw [yearText, if_neg (by omega), if_pos (by omega)]
      rfl

theorem readYear?_yearText (year : Int) : readYear? (yearText year) = some year := by
  have hn : Text.numeral? 10 (yearNumber year) = some year.natAbs :=
    Text.numeral?_padded 4 year.natAbs
  rcases yearText_cases year with ⟨h, e⟩ | ⟨h, e⟩ | ⟨h, e⟩
  · rw [e, readYear?, hn, Option.map_some, Option.some.injEq, Int.ofNat_eq_natCast]
    omega
  · rw [e, readYear?_of_numeral? hn, Option.some.injEq]
    omega
  · rw [e, readYear?, hn, Option.map_some, Option.some.injEq, Int.ofNat_eq_natCast]
    omega

/-! ### Dates -/

/-- **What is read of a date in writing is the date.** -/
theorem read?_toText (d : Date) : read? d.toText = some d := by
  obtain ⟨m₁, m₀, hm⟩ := List.length_eq_two.1 d.length_monthText
  obtain ⟨d₁, d₀, hd⟩ := List.length_eq_two.1 d.length_dayText
  have hnm : Text.numeral? 10 d.monthText = some d.month := Text.numeral?_padded 2 d.month
  have hnd : Text.numeral? 10 d.dayText = some d.day := Text.numeral?_padded 2 d.day
  have ht : d.toText = yearText d.year ++ ['-', m₁, m₀, '-', d₁, d₀] := by
    rw [toText_eq, hm, hd]
    rfl
  rw [hm] at hnm
  rw [hd] at hnd
  have hl : d.toText.length - 6 = (yearText d.year).length := by rw [ht]; simp
  rw [read?, hl, ht, List.drop_left, List.take_left]
  simp [readYear?_yearText, hnm, hnd, ofNumbers?_eq_some]

theorem toText_inj {d d' : Date} : d.toText = d'.toText ↔ d = d' := by
  refine ⟨fun h => ?_, fun h => congrArg toText h⟩
  have hr := congrArg read? h
  rwa [read?_toText, read?_toText, Option.some.injEq] at hr

theorem yearNumber_ne_nil (year : Int) : yearNumber year ≠ [] := by
  have hl : 4 ≤ (yearNumber year).length := by
    rw [yearNumber, Text.length_padded]
    exact Nat.le_max_left ..
  exact List.ne_nil_of_length_pos (Nat.lt_of_lt_of_le (by decide) hl)

/-- The number of a year holds no sign. -/
theorem not_mem_yearNumber {c : Char} (hc : ∀ k < 10, c ≠ Nat.digitChar k) (year : Int) :
    c ∉ yearNumber year := fun h => by
  obtain ⟨k, hk, e⟩ := mem_leftpad_toDigits (by decide) h
  exact hc k hk e

/-- The first character of a date is a sign exactly where its year has one. -/
theorem head?_toText (d : Date) :
    (d.toText.head? = some '-' ↔ d.year < 0) ∧ (d.toText.head? = some '+' ↔ 9999 < d.year) := by
  rw [toText_eq]
  rcases yearText_cases d.year with ⟨h, e⟩ | ⟨h, e⟩ | ⟨h, e⟩
  · simp only [e, List.cons_append, List.head?_cons, Option.some.injEq]
    exact ⟨iff_of_true trivial h, iff_of_false (by decide) (by omega)⟩
  · have hno : ∀ c : Char, (∀ k < 10, c ≠ Nat.digitChar k) →
        (yearNumber d.year ++ ('-' :: d.monthText ++ '-' :: d.dayText)).head? ≠
          some c := by
      intro c hc hhead
      rw [List.head?_append_of_ne_nil _ (yearNumber_ne_nil d.year)] at hhead
      exact not_mem_yearNumber hc d.year (List.mem_of_head? hhead)
    rw [e]
    exact ⟨iff_of_false (hno '-' (by decide)) (by omega),
      iff_of_false (hno '+' (by decide)) (by omega)⟩
  · simp only [e, List.cons_append, List.head?_cons, Option.some.injEq]
    exact ⟨iff_of_false (by decide) (by omega), iff_of_true trivial h⟩

/-! ### The order in time -/

/-- The year counts before the month, and the month before the day. -/
instance : LT Date where
  lt d d' := d.year < d'.year ∨ d.year = d'.year ∧
    (d.month < d'.month ∨ d.month = d'.month ∧ d.day < d'.day)

theorem lt_iff {d d' : Date} : d < d' ↔ d.year < d'.year ∨ d.year = d'.year ∧
    (d.month < d'.month ∨ d.month = d'.month ∧ d.day < d'.day) := Iff.rfl

/-- The year takes four digits and no sign. -/
def HasPlainYear (d : Date) : Prop := 0 ≤ d.year ∧ d.year ≤ 9999

instance (d : Date) : Decidable d.HasPlainYear := inferInstanceAs (Decidable (_ ∧ _))

variable {d d' : Date}

theorem HasPlainYear.toText_eq (h : d.HasPlainYear) :
    d.toText = yearNumber d.year ++ ('-' :: d.monthText ++ '-' :: d.dayText) := by
  rcases yearText_cases d.year with ⟨hlt, -⟩ | ⟨-, e⟩ | ⟨hlt, -⟩
  · exact absurd h.1 (by omega)
  · rw [Date.toText_eq, e]
  · exact absurd h.2 (by omega)

theorem HasPlainYear.natAbs_lt (h : d.HasPlainYear) : d.year.natAbs < 10 ^ 4 := by
  obtain ⟨h₁, h₂⟩ := h
  omega

theorem HasPlainYear.length_yearNumber (h : d.HasPlainYear) : (yearNumber d.year).length = 4 :=
  Text.length_padded_of_lt (by decide) h.natAbs_lt

theorem HasPlainYear.length_toText (h : d.HasPlainYear) : d.toText.length = 10 := by
  rw [h.toText_eq]
  simp [h.length_yearNumber, length_monthText, length_dayText]

/-- **Dates in writing are in the order in time**, where the years take four digits. -/
theorem toText_lt_iff (h : d.HasPlainYear) (h' : d'.HasPlainYear) :
    d.toText < d'.toText ↔ d < d' := by
  have hpos := h.1
  have hpos' := h'.1
  have hyear : yearNumber d.year < yearNumber d'.year ↔ d.year < d'.year :=
    (Text.padded_lt_iff (by decide) h.natAbs_lt h'.natAbs_lt).trans (by omega)
  have hyear' : yearNumber d.year = yearNumber d'.year ↔ d.year = d'.year :=
    Text.padded_inj.trans (by omega)
  have hmonth : d.monthText < d'.monthText ↔ d.month < d'.month :=
    Text.padded_lt_iff (by decide) d.month_lt d'.month_lt
  have hmonth' : d.monthText = d'.monthText ↔ d.month = d'.month := Text.padded_inj
  have hday : d.dayText < d'.dayText ↔ d.day < d'.day :=
    Text.padded_lt_iff (by decide) d.day_lt d'.day_lt
  have hlength : ('-' :: d.monthText).length = ('-' :: d'.monthText).length := by
    simp [length_monthText]
  rw [h.toText_eq, h'.toText_eq,
    Text.append_lt_append_iff (h.length_yearNumber.trans h'.length_yearNumber.symm),
    Text.append_lt_append_iff hlength, lt_iff]
  simp [hyear, hyear', hmonth, hmonth', hday]

end Imprint.Date
