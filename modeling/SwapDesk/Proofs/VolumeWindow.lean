import Mathlib
import SwapDesk.Proofs.Volume
import SwapDesk.Proofs.DayBounds
import SwapDesk.Proofs.Civil

/-! # When the weekly volume stays within the calendar

The calendar begins on -262143-01-01, a Thursday. `weeklyVolume` fails when its window starts
before that date or a swap's Sunday does; `weeklyVolume_isSome_iff` says exactly when it returns.
-/

namespace SwapDesk

namespace Instant

theorem inRange_iff (t : Instant) :
    t.inRange ↔ Date.min.day ≤ t.seconds / 86400 ∧ t.seconds / 86400 ≤ Date.max.day :=
  decide_eq_true_iff

/-- A window of `n` days ending at a valid instant starts within the calendar exactly when
`n` whole days fit between the first midnight and the end of the window, counted from the
next second when the end is a leap second. -/
theorem subDays?_isSome_iff {t : Instant} (valid : t.inRange) (n : Nat) :
    (t.subDays? n).isSome ↔
      Date.min.day * 86400 + 86400 * n ≤
        t.seconds + (if n ≠ 0 ∧ 1000000000 ≤ t.nanos then 1 else 0) := by
  rw [inRange_iff] at valid
  unfold subDays?
  by_cases leap : n ≠ 0 ∧ 1000000000 ≤ t.nanos
  · simp only [if_pos leap, inRange_iff, Option.isSome_ite]
    -- one second later is still at most the day after the last valid day
    omega
  · simp only [if_neg leap, inRange_iff, Option.isSome_ite]
    omega

theorem inRange_of_subDays? {t r : Instant} {n : Nat} (window : t.subDays? n = some r) :
    r.inRange := by
  unfold subDays? at window
  dsimp only at window
  obtain ⟨inside, same⟩ := Option.ite_none_right_eq_some.mp window
  rw [← Option.some.inj same]
  exact inside

/-- An instant between two valid instants lies on a date of the calendar. -/
theorem date_mem_of_between {start t asOf : Instant} (startValid : start.inRange)
    (asOfValid : asOf.inRange) (after : start ≤ t) (before : t ≤ asOf) :
    Date.min.day ≤ t.date.day ∧ t.date.day ≤ Date.max.day := by
  rw [inRange_iff] at startValid asOfValid
  rw [le_iff] at after before
  simp only [date]
  omega

end Instant

namespace Date

/-- A date of the calendar has its Sunday in the calendar exactly when it falls on the first
Sunday, three days after the first date, or later. -/
theorem weekStart?_isSome_iff {x : Date} (lower : Date.min.day ≤ x.day)
    (upper : x.day ≤ Date.max.day) :
    x.weekStart?.isSome ↔ Date.min.day + 3 ≤ x.day := by
  rw [min_day] at lower ⊢
  rw [max_day] at upper
  simp only [weekStart?, addDays?, ofDay?, daysFromSunday, min_day, max_day, Option.isSome_ite]
  omega

end Date

/-- Keying a list by a partial function succeeds exactly when every key exists. -/
theorem isSome_mapM_iff {α β : Type} {f : α → Option β} :
    ∀ {l : List α}, (l.mapM f).isSome ↔ ∀ a ∈ l, (f a).isSome
  | [] => by simp
  | a :: l => by
    rw [List.mapM_cons, List.forall_mem_cons, ← isSome_mapM_iff]
    cases f a <;> cases l.mapM f <;> simp

/-- Once the window has a start, the weekly volume returns exactly when every swap of the
window finds the Sunday of its week. -/
theorem weeklyVolume_isSome_iff_keyed {swaps : List Swap} {days : Nat} {asOf start : Instant}
    (window : asOf.subDays? days = some start) :
    (weeklyVolume swaps days asOf).isSome ↔
      ∀ s ∈ swaps, s.InWindow start asOf → (s.time.date.weekStart?).isSome := by
  simp only [weeklyVolume, window, Option.bind_eq_bind, Option.bind_some, Option.isSome_bind,
    Option.pure_def, Option.isSome_some, Option.any_true, isSome_mapM_iff, Option.map_eq_map,
    Option.isSome_map, List.mem_filter, Bool.and_eq_true, decide_eq_true_eq, and_imp]
  exact ⟨fun found s mem inWindow => found s mem inWindow.1 inWindow.2,
    fun found s mem after before => found s mem ⟨after, before⟩⟩

/-- **When the weekly volume returns.** Exactly when its window's days fit after the first
midnight and no swap of the window falls before the calendar's first Sunday. -/
theorem weeklyVolume_isSome_iff {swaps : List Swap} {days : Nat} {asOf : Instant}
    (valid : asOf.inRange) :
    ((asOf.subDays? days).isSome ↔
        Date.min.day * 86400 + 86400 * days ≤
          asOf.seconds + (if days ≠ 0 ∧ 1000000000 ≤ asOf.nanos then 1 else 0)) ∧
      ((weeklyVolume swaps days asOf).isSome ↔
        ∃ start, asOf.subDays? days = some start ∧
          ∀ s ∈ swaps, s.InWindow start asOf → Date.min.day + 3 ≤ s.time.date.day) := by
  refine ⟨Instant.subDays?_isSome_iff valid days, ?_⟩
  cases window : asOf.subDays? days with
  | none => simp [weeklyVolume, window]
  | some start =>
    have startValid := Instant.inRange_of_subDays? window
    rw [weeklyVolume_isSome_iff_keyed window]
    simp only [Option.some.injEq, exists_eq_left']
    -- a swap of the window lies on a date of the calendar, so its Sunday is missing only
    -- on the first three days
    refine forall₂_congr fun s _ => forall_congr' fun inWindow => ?_
    obtain ⟨lower, upper⟩ := Instant.date_mem_of_between startValid valid inWindow.1 inWindow.2
    exact Date.weekStart?_isSome_iff lower upper

/-- The weekly volume over thirty days up to 2026-02-11 23:59:59, with no swaps. -/
theorem weeklyVolume_isSome_iff_thirty_days :
    let asOf := Instant.endOfDay ⟨20495⟩
    asOf.inRange ∧
      (((asOf.subDays? 30).isSome ↔
          Date.min.day * 86400 + 86400 * 30 ≤
            asOf.seconds + (if 30 ≠ 0 ∧ 1000000000 ≤ asOf.nanos then 1 else 0)) ∧
        ((weeklyVolume [] 30 asOf).isSome ↔
          ∃ start, asOf.subDays? 30 = some start ∧
            ∀ s ∈ ([] : List Swap), s.InWindow start asOf →
              Date.min.day + 3 ≤ s.time.date.day)) :=
  have valid : (Instant.endOfDay ⟨20495⟩).inRange := by decide
  ⟨valid, weeklyVolume_isSome_iff valid⟩

theorem isSome_subDays?_of_weeklyVolume {swaps : List Swap} {days : Nat} {asOf : Instant}
    (returns : (weeklyVolume swaps days asOf).isSome) : (asOf.subDays? days).isSome := by
  cases window : asOf.subDays? days with
  | none => simp [weeklyVolume, window] at returns
  | some start => rfl

/-- No window longer than the calendar returns, whatever the swaps and the valid end of
the window. -/
theorem weeklyVolume_eq_none_of_long {swaps : List Swap} {days : Nat} {asOf : Instant}
    (valid : asOf.inRange) (long : Date.max.day - Date.min.day + 1 < days) :
    weeklyVolume swaps days asOf = none := by
  rw [← Option.not_isSome_iff_eq_none]
  intro returns
  have fits := (Instant.subDays?_isSome_iff valid days).mp (isSome_subDays?_of_weeklyVolume returns)
  rw [Instant.inRange_iff] at valid
  split_ifs at fits <;> omega

/-- The window of `2^32 - 1` days that ends at 2026-02-11 23:59:59 starts before the
calendar, so the weekly volume over it does not return. -/
theorem weeklyVolume_longest_window :
    weeklyVolume [] 4294967295 (Instant.endOfDay ⟨20495⟩) = none := by
  decide

end SwapDesk
