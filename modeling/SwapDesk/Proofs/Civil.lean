import Mathlib
import SwapDesk.Calendar.Date

/-! # Civil dates and their text

`civil` and `dayOfCivil` agree on every day number (`Date.civil_spec`), and the text of every
date of the range reads back (`Date.parse_text`). The one step of the era arithmetic that is not
linear, the year of a day, is cut into centuries and four-year cycles (`yearOfEra_spec`).
-/

namespace SwapDesk

/-! ## Digits -/

theorem toList_digitStringPadded (n w : Nat) :
    (digitStringPadded n w).toList =
      List.replicate (w - (Nat.toDigits 10 n).length) '0' ++ Nat.toDigits 10 n := by
  simp [digitStringPadded, digitString]

theorem isDigit_of_mem_toDigits_ten {n : Nat} {c : Char} (mem : c ∈ Nat.toDigits 10 n) :
    c.isDigit = true :=
  Nat.isDigit_of_mem_toDigits (by decide) (by decide) mem

theorem isDigit_of_mem_padded {n w : Nat} {c : Char} (mem : c ∈ (digitStringPadded n w).toList) :
    c.isDigit = true := by
  rw [toList_digitStringPadded] at mem
  rcases List.mem_append.mp mem with zero | digit
  · rw [List.eq_of_mem_replicate zero]
    rfl
  · exact isDigit_of_mem_toDigits_ten digit

/-- Leading zeros add nothing to the value of a digit string. -/
theorem ofDigitChars_padded (n w : Nat) :
    Nat.ofDigitChars 10 (digitStringPadded n w).toList 0 = n := by
  rw [toList_digitStringPadded, Nat.ofDigitChars_append, Nat.ofDigitChars_replicate_zero,
    Nat.mul_zero, Nat.ofDigitChars_ten_toDigits]

theorem length_padded {n w : Nat} (positive : 0 < w) (short : n < 10 ^ w) :
    (digitStringPadded n w).toList.length = w := by
  have digits := (Nat.length_toDigits_le_iff (by decide) positive).mpr short
  rw [toList_digitStringPadded, List.length_append, List.length_replicate]
  omega

theorem padded_ne_nil (n w : Nat) : (digitStringPadded n w).toList ≠ [] := by
  have digits := Nat.length_toDigits_pos (b := 10) (n := n)
  apply List.ne_nil_of_length_pos
  rw [toList_digitStringPadded, List.length_append, List.length_replicate]
  omega

theorem isBlank_of_isDigit {c : Char} (digit : c.isDigit = true) : isBlank c = false := by
  simp only [Char.isDigit, Bool.and_eq_true, decide_eq_true_eq, UInt32.le_iff_toNat_le] at digit
  have low : 48 ≤ c.toNat := digit.1
  have high : c.toNat ≤ 57 := digit.2
  simp only [isBlank, decide_eq_false_iff_not]
  omega

theorem except_ok_bind {ε α β : Type} (a : α) (f : α → Except ε β) :
    (Except.ok a >>= f) = f a := rfl

namespace Date

/-! ## Years within an era -/

/-- The year of a day within its era, counted from March, and the day of that year. The
last day of the era (the 29th of February of a year divisible by 400) is taken apart; every
other day lies in a century of 36524 days and a four-year cycle of 1461 days, the last cycle
of a century one day shorter. -/
theorem yearOfEra_spec {doe yoe doy : Int} (nonneg : 0 ≤ doe) (inEra : doe ≤ 146096)
    (year : yoe = (doe - doe / 1460 + doe / 36524 - doe / 146096) / 365)
    (day : doy = doe - (365 * yoe + yoe / 4 - yoe / 100)) :
    0 ≤ yoe ∧ yoe ≤ 399 ∧ 0 ≤ doy ∧ doy ≤ 365 ∧
      (doy = 365 → (yoe + 1) % 4 = 0 ∧ ((yoe + 1) % 100 ≠ 0 ∨ (yoe + 1) % 400 = 0)) := by
  rcases (show doe = 146096 ∨ doe < 146096 by omega) with last | inside
  · subst last year
    subst day
    decide
  · obtain ⟨C, Q, r, split, century, cycle, rest, shortCycle⟩ : ∃ C Q r : Int,
        doe = 36524 * C + 1461 * Q + r ∧ (0 ≤ C ∧ C ≤ 3) ∧ (0 ≤ Q ∧ Q ≤ 24) ∧
        (0 ≤ r ∧ r ≤ 1460) ∧ (Q = 24 → r ≤ 1459) :=
      ⟨doe / 36524, doe % 36524 / 1461, doe % 36524 % 1461, by omega, by omega, by omega,
        by omega, by omega⟩
    have centuries : doe / 36524 = C := by omega
    have noEraEnd : doe / 146096 = 0 := by omega
    have yearOf : yoe = 100 * C + 4 * Q + Min.min (r / 365) 3 := by omega
    have leapDays : yoe / 4 = 25 * C + Q := by omega
    have skippedLeapDays : yoe / 100 = C := by omega
    omega

/-- A shift by whole eras changes no year's leap. -/
theorem isLeapYear_add_era (era yoe : Int) : isLeapYear (yoe + era * 400) = isLeapYear yoe := by
  simp only [isLeapYear]
  have by4 : (yoe + era * 400) % 4 = yoe % 4 := by omega
  have by100 : (yoe + era * 400) % 100 = yoe % 100 := by omega
  have by400 : (yoe + era * 400) % 400 = yoe % 400 := by omega
  rw [by4, by100, by400]

/-! ## Months within a year -/

/-- The month of a day of a year that starts in March, and the day of that month: the
month is a month of the calendar and the day exists in it. -/
theorem monthOfYear_spec {y doy mp m d : Int} (nonneg : 0 ≤ doy) (inYear : doy ≤ 365)
    (leap : doy = 365 → isLeapYear y = true) (monthFromMarch : mp = (5 * doy + 2) / 153)
    (month : m = if mp < 10 then mp + 3 else mp - 9) (day : d = doy - (153 * mp + 2) / 5 + 1) :
    0 ≤ mp ∧ mp ≤ 11 ∧ 1 ≤ d ∧ d ≤ monthLength y m.toNat := by
  have bounds : 0 ≤ mp ∧ mp ≤ 11 := by omega
  refine ⟨bounds.1, bounds.2, by omega, ?_⟩
  obtain ⟨k, rfl⟩ : ∃ k : Nat, mp = k := ⟨mp.toNat, by omega⟩
  subst day month
  rcases (show k < 11 ∨ k = 11 by omega) with marchToJanuary | february
  · interval_cases k <;> simp [monthLength] <;> omega
  · subst february
    by_cases leapYear : isLeapYear y = true
    · simp [monthLength, leapYear]
      omega
    · have notLeapDay : doy ≠ 365 := fun leapDay => leapYear (leap leapDay)
      simp [monthLength, leapYear]
      omega

theorem monthLength_le (y : Int) (m : Nat) : monthLength y m ≤ 31 := by
  unfold monthLength
  split
  · split <;> omega
  all_goals omega

/-! ## From a day number to a civil date and back -/

/-- The steps of `civil` under names: the era, the day within it, the year of the era
counted from March, the day of that year and the month counted from March. -/
theorem civil_steps (x : Date) : ∃ era doe yoe doy mp : Int,
    x.day + 719468 = era * 146097 + doe ∧ 0 ≤ doe ∧ doe ≤ 146096 ∧
    yoe = (doe - doe / 1460 + doe / 36524 - doe / 146096) / 365 ∧
    doy = doe - (365 * yoe + yoe / 4 - yoe / 100) ∧ mp = (5 * doy + 2) / 153 ∧
    x.civil = (if (if mp < 10 then mp + 3 else mp - 9) ≤ 2 then yoe + era * 400 + 1
        else yoe + era * 400, (if mp < 10 then mp + 3 else mp - 9).toNat,
        (doy - (153 * mp + 2) / 5 + 1).toNat) :=
  ⟨_, _, _, _, _, by omega, by omega, by omega, rfl, rfl, rfl, rfl⟩

/-- `dayOfCivil` with its year moved back for January and February, and its month counted
from March, given by name. -/
theorem dayOfCivil_eq {y y' mp : Int} {m d : Nat} (shifted : y' = if m ≤ 2 then y - 1 else y)
    (monthFromMarch : mp = if m > 2 then (m : Int) - 3 else (m : Int) + 9) :
    dayOfCivil y m d = y' / 400 * 146097 +
      ((y' - y' / 400 * 400) * 365 + (y' - y' / 400 * 400) / 4 - (y' - y' / 400 * 400) / 100 +
        ((153 * mp + 2) / 5 + d - 1)) - 719468 := by
  subst shifted monthFromMarch
  rfl

/-- **`civil` gives a valid date, and `dayOfCivil` turns it back into the day number.** -/
theorem civil_spec (x : Date) :
    1 ≤ x.civil.2.1 ∧ x.civil.2.1 ≤ 12 ∧ 1 ≤ x.civil.2.2 ∧
      x.civil.2.2 ≤ monthLength x.civil.1 x.civil.2.1 ∧
      dayOfCivil x.civil.1 x.civil.2.1 x.civil.2.2 = x.day := by
  obtain ⟨era, doe, yoe, doy, mp, split, nonneg, inEra, yearOf, dayOf, monthOf, civilOf⟩ :=
    civil_steps x
  obtain ⟨yoe0, yoe399, doy0, doy365, leapDay⟩ := yearOfEra_spec nonneg inEra yearOf dayOf
  rw [civilOf]
  simp only
  generalize monthIs : (if mp < 10 then mp + 3 else mp - 9) = m
  generalize yearIs : (if m ≤ 2 then yoe + era * 400 + 1 else yoe + era * 400) = Y
  generalize dayIs : doy - (153 * mp + 2) / 5 + 1 = d
  have month : mp < 10 ∧ m = mp + 3 ∨ 10 ≤ mp ∧ m = mp - 9 := by
    subst monthIs
    split <;> omega
  -- January and February belong to the year after the one their year of the era starts in
  have year : m ≤ 2 ∧ Y = yoe + era * 400 + 1 ∨ 2 < m ∧ Y = yoe + era * 400 := by
    subst yearIs
    split <;> omega
  have leapFebruary : doy = 365 → isLeapYear Y = true := by
    intro last
    obtain ⟨by4, by100⟩ := leapDay last
    have nextYear : Y = (yoe + 1) + era * 400 := by omega
    rw [nextYear, isLeapYear_add_era]
    simp [isLeapYear]
    omega
  obtain ⟨mp0, mp11, day1, dayLength⟩ :=
    monthOfYear_spec doy0 doy365 leapFebruary monthOf monthIs.symm dayIs.symm
  refine ⟨by omega, by omega, by omega, by omega, ?_⟩
  rw [@dayOfCivil_eq _ (yoe + era * 400) mp _ _ (by split <;> omega) (by split <;> omega)]
  have eraBack : (yoe + era * 400) / 400 = era := by omega
  have yearOfEraBack : yoe + era * 400 - era * 400 = yoe := by ring
  rw [eraBack, yearOfEraBack]
  omega

theorem min_day : Date.min.day = -96465292 := by decide

theorem max_day : Date.max.day = 95026236 := by decide

/-- A date of the range has a year of the range: the first day is January 1st of
`minYear` and the last December 31st of `maxYear`. -/
theorem civil_year_mem {x : Date} (lower : Date.min ≤ x) (upper : x ≤ Date.max) :
    minYear ≤ x.civil.1 ∧ x.civil.1 ≤ maxYear := by
  have lower : -96465292 ≤ x.day := min_day ▸ lower
  have upper : x.day ≤ 95026236 := max_day ▸ upper
  obtain ⟨era, doe, yoe, doy, mp, split, nonneg, inEra, yearOf, dayOf, monthOf, civilOf⟩ :=
    civil_steps x
  obtain ⟨yoe0, yoe399, doy0, doy365, -⟩ := yearOfEra_spec nonneg inEra yearOf dayOf
  rw [civilOf]
  simp only [minYear, maxYear]
  -- the month decides whether the civil year is the year of the era or the next one
  split <;> split at * <;> omega

theorem ofCivil?_civil {x : Date} (lower : Date.min ≤ x) (upper : x ≤ Date.max) :
    ofCivil? x.civil.1 x.civil.2.1 x.civil.2.2 = some x := by
  obtain ⟨month1, month12, day1, dayLength, back⟩ := civil_spec x
  obtain ⟨yearLow, yearHigh⟩ := civil_year_mem lower upper
  rw [ofCivil?, if_pos ⟨yearLow, yearHigh, month1, month12, day1, dayLength⟩, back]

/-! ## Reading numbers back -/

/-- A run of digits followed by a character that is no digit reads as its value. -/
theorem scanNumber_digits {ds rest : List Char} {least most : Nat}
    (digits : ∀ c ∈ ds, c.isDigit = true) (stop : ∀ c ∈ rest.head?, c.isDigit = false)
    (enough : least ≤ ds.length) (fits : ds.length ≤ most)
    (small : Nat.ofDigitChars 10 ds 0 < Nat.pow 2 63) :
    scanNumber (ds ++ rest) least most = .ok (Nat.ofDigitChars 10 ds 0, rest) := by
  have taken : ((ds ++ rest).take most).takeWhile Char.isDigit = ds := by
    rw [List.take_append, List.take_of_length_le fits, List.takeWhile_append_of_pos digits]
    -- past the digits, the next character, if it is read at all, is no digit
    suffices (rest.take (most - ds.length)).takeWhile Char.isDigit = [] by simp [this]
    cases rest with
    | nil => simp
    | cons c cs =>
      cases most - ds.length with
      | zero => simp
      | succ k => simp [stop c rfl]
  unfold scanNumber
  simp only [taken, List.length_append, ← Nat.ofDigitChars_eq_foldl]
  rw [if_neg (by omega), if_neg (by omega), if_neg (by omega), List.drop_left]

theorem dropBlank_digits {ds rest : List Char} (digits : ∀ c ∈ ds, c.isDigit = true)
    (nonempty : ds ≠ []) : dropBlank (ds ++ rest) = ds ++ rest := by
  obtain ⟨c, cs, rfl⟩ := List.exists_cons_of_ne_nil nonempty
  exact List.dropWhile_cons_of_neg (by simp [isBlank_of_isDigit (digits c (by simp))])

theorem scanYear_digits {ds rest : List Char} (digits : ∀ c ∈ ds, c.isDigit = true)
    (nonempty : ds ≠ []) (fits : ds.length ≤ 4) (stop : ∀ c ∈ rest.head?, c.isDigit = false)
    (small : Nat.ofDigitChars 10 ds 0 < Nat.pow 2 63) :
    scanYear (ds ++ rest) = .ok ((Nat.ofDigitChars 10 ds 0 : Int), rest) := by
  obtain ⟨c, cs, rfl⟩ := List.exists_cons_of_ne_nil nonempty
  have digit : c.isDigit = true := digits c (by simp)
  unfold scanYear
  rw [dropBlank_digits digits nonempty]
  split
  · next startsWithMinus =>
    cases startsWithMinus
    exact absurd digit (by decide)
  · next startsWithPlus =>
    cases startsWithPlus
    exact absurd digit (by decide)
  · rw [scanNumber_digits digits stop (by simp) fits small]
    rfl

theorem scanYear_signed {sign : Char} {ds rest : List Char} (signed : sign = '-' ∨ sign = '+')
    (digits : ∀ c ∈ ds, c.isDigit = true) (nonempty : ds ≠ [])
    (stop : ∀ c ∈ rest.head?, c.isDigit = false)
    (small : Nat.ofDigitChars 10 ds 0 < Nat.pow 2 63) :
    scanYear (sign :: (ds ++ rest)) =
      .ok (if sign = '-' then -(Nat.ofDigitChars 10 ds 0 : Int) else Nat.ofDigitChars 10 ds 0,
        rest) := by
  have enough : 1 ≤ ds.length := List.length_pos_iff.mpr nonempty
  have fits : ds.length ≤ (ds ++ rest).length + 1 := by simp; omega
  have unblank : ¬ isBlank sign = true := by rcases signed with rfl | rfl <;> decide
  -- the match of `scanYear` on the sign reduces only once the sign is a literal
  rcases signed with rfl | rfl <;>
  · simp only [scanYear, dropBlank, List.dropWhile_cons_of_neg unblank]
    rw [scanNumber_digits digits stop enough fits small]
    rfl

/-- The text of a year, followed by the `-` before the month, reads back. -/
theorem scanYear_yearText {y : Int} (small : y.natAbs < 10 ^ 6) (more : List Char) :
    scanYear ((yearText y).toList ++ '-' :: more) = .ok (y, '-' :: more) := by
  have stop : ∀ c ∈ ('-' :: more).head?, c.isDigit = false := by simp
  have fitsWord : y.natAbs < Nat.pow 2 63 := by
    have : (10 : Nat) ^ 6 < Nat.pow 2 63 := by decide
    omega
  have digitsOf (n : Nat) : ∀ c ∈ (digitStringPadded n 4).toList, c.isDigit = true :=
    fun _ => isDigit_of_mem_padded
  unfold yearText
  split_ifs with plain negative
  · -- four digits and no sign
    have fits : (digitStringPadded y.toNat 4).toList.length = 4 :=
      length_padded (by decide) (by omega)
    rw [scanYear_digits (digitsOf _) (padded_ne_nil _ _) (by omega) stop
      (by rw [ofDigitChars_padded]; omega), ofDigitChars_padded, Int.toNat_of_nonneg plain.1]
  · -- a minus sign and at least four digits
    simp only [String.toList_append, List.append_assoc]
    rw [show ("-" : String).toList = ['-'] from rfl, List.singleton_append,
      scanYear_signed (Or.inl rfl) (digitsOf _) (padded_ne_nil _ _) stop
        (by rw [ofDigitChars_padded]; exact fitsWord),
      if_pos rfl, ofDigitChars_padded]
    congr 2
    omega
  · -- a plus sign and at least five digits
    simp only [String.toList_append, List.append_assoc]
    rw [show ("+" : String).toList = ['+'] from rfl, List.singleton_append,
      scanYear_signed (Or.inr rfl) (digitsOf _) (padded_ne_nil _ _) stop
        (by rw [ofDigitChars_padded]; exact fitsWord),
      if_neg (by decide), ofDigitChars_padded]
    congr 2
    omega

/-- A month or a day of two digits reads back when it lies in its range. -/
theorem scanField_padded {n hi : Nat} (low : 1 ≤ n) (high : n ≤ hi) (small : n < 100)
    (more : List Char) (stop : ∀ c ∈ more.head?, c.isDigit = false) :
    scanField ((digitStringPadded n 2).toList ++ more) hi = .ok (n, more) := by
  have fits : (digitStringPadded n 2).toList.length = 2 := length_padded (by decide) small
  have digits : ∀ c ∈ (digitStringPadded n 2).toList, c.isDigit = true :=
    fun _ => isDigit_of_mem_padded
  unfold scanField
  rw [dropBlank_digits digits (padded_ne_nil _ _),
    scanNumber_digits digits stop (by omega) (by omega)
      (by rw [ofDigitChars_padded]; exact Nat.lt_of_lt_of_le small (by decide)),
    ofDigitChars_padded, except_ok_bind]
  simp only [if_pos (And.intro low high)]
  rfl

/-! ## Reading dates back -/

theorem text_toList (x : Date) : x.text.toList = (yearText x.civil.1).toList ++
    '-' :: ((digitStringPadded x.civil.2.1 2).toList ++
      '-' :: (digitStringPadded x.civil.2.2 2).toList) := by
  simp [text, String.toList_append]

/-- **Every date of the range reads back from its text.** The year is read with or without
its sign, the month and day as two digits, and the date is rebuilt from them. -/
theorem parse_text {x : Date} (lower : Date.min ≤ x) (upper : x ≤ Date.max) :
    Date.parse x.text = .ok x := by
  obtain ⟨month1, month12, day1, dayLength, -⟩ := civil_spec x
  obtain ⟨yearLow, yearHigh⟩ := civil_year_mem lower upper
  simp only [minYear, maxYear] at yearLow yearHigh
  have dayHigh := monthLength_le x.civil.1 x.civil.2.1
  have yearSmall : x.civil.1.natAbs < 10 ^ 6 := by omega
  have inInt32 : ¬ (x.civil.1 < -2147483648 ∨ x.civil.1 > 2147483647) := by omega
  have dash (more : List Char) : ∀ c ∈ ('-' :: more).head?, c.isDigit = false := by simp
  unfold parse
  rw [text_toList]
  simp only [scanCivil, scanYear_yearText yearSmall, except_ok_bind, if_neg inInt32,
    Bool.false_eq_true, if_false, scanLiteral, if_true,
    scanField_padded month1 month12 (by omega) _ (dash _)]
  rw [← List.append_nil (digitStringPadded x.civil.2.2 2).toList,
    scanField_padded day1 (Nat.le_trans dayLength dayHigh) (by omega) [] (by simp),
    except_ok_bind]
  simp only [ofScan, pure_bind, List.isEmpty_nil, Bool.not_true, Bool.false_eq_true, if_false,
    ofCivil?_civil lower upper]
  rfl

end Date

end SwapDesk
