import Mathlib
import SwapDesk.Calendar.Instant
import SwapDesk.Proofs.Civil

/-! # Instants and their text

An instant is `Valid` when a date-time of the calendar can hold it: it lies on a date of the
range, and its fraction is below a second, or below two in the last second of a minute,
where a leap second sits. `Instant.parse_text_iff`: the RFC 3339 text of an instant reads
back exactly when the instant is valid.
-/

namespace SwapDesk

namespace Instant

structure Valid (t : Instant) : Prop where
  inRange : t.inRange = true
  fraction : t.nanos < 1000000000 ∨ (t.nanos < 2000000000 ∧ t.seconds % 60 = 59)

theorem Valid.date_mem {t : Instant} (valid : t.Valid) :
    Date.min.day ≤ t.date.day ∧ t.date.day ≤ Date.max.day := by
  simpa [Instant.inRange] using valid.inRange

/-! ## Reading the pieces back -/

theorem scanSeparator_cons {c : Char} (notBlank : isBlank c = false) (more : List Char) :
    scanSeparator c (c :: more) = some more := by
  simp [scanSeparator, dropBlank, notBlank]

theorem scanClock_padded {n hi : Nat} (le : n ≤ hi) (small : n < 100) (more : List Char)
    (stop : ∀ c ∈ more.head?, c.isDigit = false) :
    scanClock ((digitStringPadded n 2).toList ++ more) hi = some (n, more) := by
  have fits : (digitStringPadded n 2).toList.length = 2 := length_padded (by decide) small
  have digits : ∀ c ∈ (digitStringPadded n 2).toList, c.isDigit = true :=
    fun _ => isDigit_of_mem_padded
  unfold scanClock
  rw [Date.dropBlank_digits digits (padded_ne_nil _ _),
    Date.scanNumber_digits digits stop (by omega) (by omega)
      (by rw [ofDigitChars_padded]; exact Nat.lt_of_lt_of_le small (by decide)),
    ofDigitChars_padded]
  exact if_pos le

/-- A point and `w` digits of a fraction stand for `n · 10^(9 - w)` nanoseconds. -/
theorem scanFraction_padded {n w m : Nat} (positive : 0 < w) (fits : w ≤ 9) (small : n < 10 ^ w)
    (value : n * 10 ^ (9 - w) = m) (more : List Char) (stop : ∀ c ∈ more.head?, c.isDigit = false) :
    scanFraction (("." ++ digitStringPadded n w).toList ++ more) = some (m, more) := by
  have length := length_padded positive small
  have digits : ∀ c ∈ (digitStringPadded n w).toList, c.isDigit = true :=
    fun _ => isDigit_of_mem_padded
  have taken : ((digitStringPadded n w).toList ++ more).takeWhile Char.isDigit =
      (digitStringPadded n w).toList := by
    rw [List.takeWhile_append_of_pos digits]
    cases more with
    | nil => simp
    | cons c cs => simp [stop c rfl]
  rw [String.toList_append, List.append_assoc, show (".".toList) = ['.'] from rfl,
    List.singleton_append]
  simp only [scanFraction, taken, List.isEmpty_iff, padded_ne_nil, if_false, length,
    List.take_of_length_le (by omega : (digitStringPadded n w).toList.length ≤ 9),
    ← Nat.ofDigitChars_eq_foldl, Nat.ofDigitChars_append, ofDigitChars_padded,
    Nat.ofDigitChars_replicate_zero, List.drop_left' length]
  rw [← value, Nat.mul_comm]

/-- The fraction of a second as written reads back, up to the zone that follows it. -/
theorem scanFraction_fractionText {nanos : Nat} (below : nanos < 1000000000) (more : List Char) :
    scanFraction ((fractionText nanos .auto).toList ++ 'Z' :: more) = some (nanos, 'Z' :: more) := by
  have zone : ∀ c ∈ ('Z' :: more).head?, c.isDigit = false := by simp
  unfold fractionText
  split_ifs with zero millis micros
  · rw [zero]
    rfl
  · exact scanFraction_padded (by decide) (by decide) (by omega) (by omega) _ zone
  · exact scanFraction_padded (by decide) (by decide) (by omega) (by omega) _ zone
  · exact scanFraction_padded (by decide) (by decide) (by omega) (by omega) _ zone

/-! ## The text reads back -/

theorem text_toList (t : Instant) :
    (t.text .auto true).toList =
      t.date.text.toList ++ 'T' :: ((digitStringPadded (t.secondOfDay / 3600) 2).toList ++
        ':' :: ((digitStringPadded (t.secondOfDay / 60 % 60) 2).toList ++
        ':' :: ((digitStringPadded
          (if t.nanos ≥ 1000000000 then t.secondOfDay % 60 + 1 else t.secondOfDay % 60) 2).toList ++
        ((fractionText (if t.nanos ≥ 1000000000 then t.nanos - 1000000000 else t.nanos)
          .auto).toList ++ ['Z'])))) := by
  simp [text, clockText, String.toList_append]

/-- A date of the range reads back from its text, before anything that is no digit. -/
theorem scanDate_text {x : Date} (lower : Date.min ≤ x) (upper : x ≤ Date.max)
    (more : List Char) (stop : ∀ c ∈ more.head?, c.isDigit = false) :
    scanDate (x.text.toList ++ more) = some ((x.civil.1, x.civil.2.1, x.civil.2.2), more) := by
  obtain ⟨month1, month12, day1, dayLength, -⟩ := Date.civil_spec x
  obtain ⟨yearLow, yearHigh⟩ := Date.civil_year_mem lower upper
  simp only [Date.minYear, Date.maxYear] at yearLow yearHigh
  have dayHigh := Date.monthLength_le x.civil.1 x.civil.2.1
  have yearSmall : x.civil.1.natAbs < 10 ^ 6 := by omega
  have dash (more : List Char) : ∀ c ∈ ('-' :: more).head?, c.isDigit = false := by simp
  rw [Date.text_toList]
  simp only [List.append_assoc, List.cons_append, scanDate, Date.scanYear_yearText yearSmall,
    Except.toOption, Option.bind_eq_bind, Option.bind_some,
    scanSeparator_cons (by decide : isBlank '-' = false),
    Date.scanField_padded month1 month12 (by omega) _ (dash _),
    Date.scanField_padded day1 (Nat.le_trans dayLength dayHigh) (by omega) _ stop]
  rfl

theorem fractionText_head (nanos : Nat) (more : List Char) :
    ∀ c ∈ ((fractionText nanos .auto).toList ++ 'Z' :: more).head?, c.isDigit = false := by
  unfold fractionText
  split_ifs <;> simp [String.toList_append, show (".".toList) = ['.'] from rfl]

/-- A time of day as written, with its fraction, reads back up to the zone. -/
theorem scanTime_clock {hh mm ss nanos : Nat} (hour : hh ≤ 23) (minute : mm ≤ 59)
    (second : ss ≤ 60) (below : nanos < 1000000000) (more : List Char) :
    scanTime ((digitStringPadded hh 2).toList ++ ':' :: ((digitStringPadded mm 2).toList ++
      ':' :: ((digitStringPadded ss 2).toList ++ ((fractionText nanos .auto).toList ++
      'Z' :: more)))) = some ((hh, mm, ss, nanos), 'Z' :: more) := by
  have colon (more : List Char) : ∀ c ∈ (':' :: more).head?, c.isDigit = false := by simp
  simp only [scanTime, scanClock_padded hour (by omega) _ (colon _),
    scanClock_padded minute (by omega) _ (colon _),
    scanClock_padded second (by omega) _ (fractionText_head nanos more),
    scanSeparator_cons (by decide : isBlank ':' = false), scanFraction_fractionText below,
    Option.bind_eq_bind, Option.bind_some]
  rfl

/-- The date, time of day and fraction an instant's text shows, at offset zero, give the
instant back. A leap second is shown as second 60 of the minute's last second. -/
theorem ofLocal?_text {t : Instant} (valid : t.Valid) :
    ofLocal? t.date.civil.1 t.date.civil.2.1 t.date.civil.2.2 (t.secondOfDay / 3600)
      (t.secondOfDay / 60 % 60)
      (if t.nanos ≥ 1000000000 then t.secondOfDay % 60 + 1 else t.secondOfDay % 60)
      (if t.nanos ≥ 1000000000 then t.nanos - 1000000000 else t.nanos) 0 = some t := by
  have bounds := valid.date_mem
  obtain ⟨inRange, fraction⟩ := valid
  have secondNat : (t.secondOfDay : Int) = t.seconds % 86400 :=
    Int.toNat_of_nonneg (Int.emod_nonneg _ (by decide))
  have dayOf : t.date.day = t.seconds / 86400 := rfl
  -- the minute's last second is the 59th in UTC and in the day alike
  have lastSecond : t.seconds % 60 = 59 → t.secondOfDay % 60 = 59 := by omega
  simp only [ofLocal?, Date.ofCivil?_civil bounds.1 bounds.2, Option.bind_eq_bind, Option.bind_some]
  by_cases leap : t.nanos ≥ 1000000000
  · have minuteEnd : t.secondOfDay % 60 = 59 := lastSecond (by omega)
    have same : (⟨t.date.day * 86400 + ((t.secondOfDay / 3600 * 3600 + t.secondOfDay / 60 % 60 * 60 +
        59 : Nat) : Int) - 0, t.nanos - 1000000000 + 1000000000⟩ : Instant) = ⟨t.seconds, t.nanos⟩ := by
      rw [Instant.mk.injEq]
      omega
    simp only [if_pos leap, minuteEnd, if_true, same, inRange]
  · have below : t.secondOfDay % 60 ≠ 60 := by omega
    have same : (⟨t.date.day * 86400 + ((t.secondOfDay / 3600 * 3600 + t.secondOfDay / 60 % 60 * 60 +
        t.secondOfDay % 60 : Nat) : Int) - 0, t.nanos⟩ : Instant) = ⟨t.seconds, t.nanos⟩ := by
      rw [Instant.mk.injEq]
      omega
    simp only [if_neg leap, below, if_false, same, inRange, if_true]

theorem parse_text {t : Instant} (valid : t.Valid) : parse? (t.text .auto true) = some t := by
  have bounds := valid.date_mem
  have dayLong : t.secondOfDay < 86400 := by
    simp only [secondOfDay]
    omega
  have second : (if t.nanos ≥ 1000000000 then t.secondOfDay % 60 + 1 else t.secondOfDay % 60) ≤ 60 := by
    split <;> omega
  have below : (if t.nanos ≥ 1000000000 then t.nanos - 1000000000 else t.nanos) < 1000000000 := by
    rcases valid.fraction with short | leap <;> split <;> omega
  have zone : scanZone (dropBlank ['Z']) = some (0, []) := rfl
  unfold parse?
  rw [text_toList, scanDate_text bounds.1 bounds.2 _ (by simp)]
  simp only [Option.bind_eq_bind, Option.bind_some, true_or, if_true,
    scanTime_clock (by omega : t.secondOfDay / 3600 ≤ 23) (by omega : t.secondOfDay / 60 % 60 ≤ 59)
      second below [], zone]
  -- nothing follows the zone, and the offset is zero
  have ended : (!(dropBlank ([] : List Char)).isEmpty) ≠ true := by decide
  rw [if_neg ended]
  split
  · next outside => exact absurd outside (by decide)
  · exact ofLocal?_text valid

/-! ## What the reader returns is valid -/

theorem ofDigitChars_lt {l : List Char} (digits : ∀ c ∈ l, c.isDigit = true) (n : Nat) :
    Nat.ofDigitChars 10 l n < (n + 1) * 10 ^ l.length := by
  induction l generalizing n with
  | nil => simp
  | cons c cs ih =>
    have digit : c.toNat - '0'.toNat ≤ 9 := by
      have := digits c (by simp)
      simp only [Char.isDigit, Bool.and_eq_true, decide_eq_true_eq, UInt32.le_iff_toNat_le] at this
      have high : c.toNat ≤ 57 := this.2
      have zero : '0'.toNat = 48 := rfl
      omega
    rw [Nat.ofDigitChars_cons, List.length_cons, Nat.pow_succ]
    calc Nat.ofDigitChars 10 cs (10 * n + (c.toNat - '0'.toNat))
        < (10 * n + (c.toNat - '0'.toNat) + 1) * 10 ^ cs.length :=
          ih (fun d mem => digits d (by simp [mem])) _
      _ ≤ (n + 1) * (10 ^ cs.length * 10) := by
          rw [Nat.mul_comm (10 ^ cs.length) 10, ← Nat.mul_assoc]
          exact Nat.mul_le_mul_right _ (by omega)

/-- The first nine digits of a fraction count, so it stays below a second. -/
theorem scanFraction_lt {cs rest : List Char} {n : Nat} (read : scanFraction cs = some (n, rest)) :
    n < 1000000000 := by
  unfold scanFraction at read
  split at read
  · next tail =>
    dsimp only at read
    split at read
    · cases read
    · simp only [Option.some.injEq, Prod.mk.injEq] at read
      rw [← read.1, ← Nat.ofDigitChars_eq_foldl]
      have digits : ∀ c ∈ (tail.takeWhile Char.isDigit).take 9 ++
          List.replicate (9 - (tail.takeWhile Char.isDigit).length) '0', c.isDigit = true := by
        intro c mem
        rcases List.mem_append.mp mem with taken | zero
        · exact List.mem_takeWhile_imp (List.mem_of_mem_take taken)
        · rw [List.eq_of_mem_replicate zero]
          rfl
      have nine : ((tail.takeWhile Char.isDigit).take 9 ++
          List.replicate (9 - (tail.takeWhile Char.isDigit).length) '0').length = 9 := by
        simp only [List.length_append, List.length_take, List.length_replicate]
        omega
      simpa [nine] using ofDigitChars_lt digits 0
  · next =>
    simp only [Option.some.injEq, Prod.mk.injEq] at read
    omega

theorem scanOffset_minutes {cs rest : List Char} {offset : Int}
    (read : scanOffset cs = some (offset, rest)) : offset % 60 = 0 := by
  unfold scanOffset at read
  split at read
  · cases read
    rfl
  · cases read
    rfl
  · next c tail _ _ =>
    dsimp only at read
    by_cases signed : c = '+' ∨ c = '-' ∨ c = '−'
    · rw [if_pos signed] at read
      split at read
      · split at read
        · split at read
          · split at read
            · simp only [Option.some.injEq, Prod.mk.injEq] at read
              rw [← read.1]
              -- hours and minutes both count whole minutes, whatever the sign
              split <;> omega
            · cases read
          · cases read
        · cases read
      · cases read
    · rw [if_neg signed] at read
      cases read
  · cases read

theorem scanZone_minutes {cs rest : List Char} {offset : Int}
    (read : scanZone cs = some (offset, rest)) : offset % 60 = 0 := by
  unfold scanZone at read
  split at read
  · split_ifs at read
    · simp only [Option.some.injEq, Prod.mk.injEq] at read
      rw [← read.1]
      rfl
    · exact scanOffset_minutes read
  · exact scanOffset_minutes read

theorem scanTime_fraction {cs rest : List Char} {hh mm ss nanos : Nat}
    (read : scanTime cs = some ((hh, mm, ss, nanos), rest)) : nanos < 1000000000 := by
  simp only [scanTime, Option.bind_eq_bind, Option.bind_eq_some_iff] at read
  obtain ⟨_, -, _, -, _, -, _, -, _, -, ⟨fraction, _⟩, scanned, last⟩ := read
  simp only [Option.pure_def, Option.some.injEq, Prod.mk.injEq] at last
  rw [← last.1.2.2.2]
  exact scanFraction_lt scanned

/-- The instant of a local time is valid: a leap second stays in the minute's last second,
since the offset is a whole number of minutes. -/
theorem ofLocal?_valid {y : Int} {m d hh mm ss nanos : Nat} {offset : Int} {t : Instant}
    (read : ofLocal? y m d hh mm ss nanos offset = some t) (fraction : nanos < 1000000000)
    (minutes : offset % 60 = 0) : t.Valid := by
  simp only [ofLocal?, Option.bind_eq_bind, Option.bind_eq_some_iff] at read
  obtain ⟨date, -, read⟩ := read
  by_cases leap : ss = 60
  · simp only [leap, if_true] at read
    split at read
    · next inRange =>
      cases read
      refine ⟨inRange, Or.inr ⟨?_, ?_⟩⟩ <;> dsimp only <;> omega
    · cases read
  · simp only [leap, if_false] at read
    split at read
    · next inRange =>
      cases read
      exact ⟨inRange, Or.inl fraction⟩
    · cases read

theorem valid_of_parse? {s : String} {t : Instant} (read : parse? s = some t) : t.Valid := by
  simp only [parse?, Option.bind_eq_bind, Option.bind_eq_some_iff] at read
  obtain ⟨⟨date, cs⟩, -, read⟩ := read
  split at read
  · split at read
    · simp only [Option.bind_some, Option.bind_eq_some_iff] at read
      obtain ⟨⟨⟨hh, mm, ss, nanos⟩, cs⟩, timed, ⟨offset, cs⟩, zoned, read⟩ := read
      split at read
      · cases read
      · split at read
        · cases read
        · exact ofLocal?_valid read (scanTime_fraction timed) (scanZone_minutes zoned)
    · cases read
  · cases read

/-- **An instant's text reads back exactly when the instant is valid.** -/
theorem parse_text_iff (t : Instant) : parse? (t.text .auto true) = some t ↔ t.Valid :=
  ⟨valid_of_parse?, parse_text⟩

end Instant

end SwapDesk
