import Mathlib
import SwapDesk.Proofs.Query

/-! # The date bounds of a query

A query bounds swaps by dates but compares instants, from midnight to `23:59:59`. The lower
bound is exactly "on that date or later" (`Instant.startOfDay_le_iff`); the upper one leaves out
the fraction past the last whole second and a leap second (`Instant.le_endOfDay_iff`).
-/

namespace SwapDesk

namespace Instant

theorem le_iff (a b : Instant) :
    a ≤ b ↔ a.seconds < b.seconds ∨ a.seconds = b.seconds ∧ a.nanos ≤ b.nanos := by
  show cmp a b ≠ .gt ↔ _
  unfold cmp
  rcases lt_trichotomy a.seconds b.seconds with before | same | after
  · simp [compare_lt_iff_lt.mpr before, before]
  · simp [same, Nat.compare_ne_gt]
  · simp [compare_gt_iff_gt.mpr after, after.not_gt, after.ne']

/-- An instant lies past the last whole second of its day: in `23:59:59` with a fraction,
or in a leap second after it. -/
def PastLastSecond (t : Instant) : Prop := t.secondOfDay = 86399 ∧ 0 < t.nanos

theorem date_startOfDay (d : Date) : (startOfDay d).date = d := by
  simp only [startOfDay, date]
  congr 1
  omega

theorem date_endOfDay (d : Date) : (endOfDay d).date = d := by
  simp only [endOfDay, date]
  congr 1
  omega

/-- The lower bound of a date is exact: midnight opening `d` is at or before `t` exactly
when `t` falls on `d` or later. -/
theorem startOfDay_le_iff (d : Date) (t : Instant) : startOfDay d ≤ t ↔ d ≤ t.date := by
  rw [le_iff]
  show _ ↔ d.day ≤ t.seconds / 86400
  simp only [startOfDay]
  omega

/-- The upper bound of a date leaves out what lies past its last whole second. -/
theorem le_endOfDay_iff (d : Date) (t : Instant) :
    t ≤ endOfDay d ↔ t.date ≤ d ∧ ¬ (t.date = d ∧ t.PastLastSecond) := by
  obtain ⟨day⟩ := d
  have dateLe (a b : Int) : (⟨a⟩ : Date) ≤ ⟨b⟩ ↔ a ≤ b := Iff.rfl
  rw [le_iff]
  simp only [endOfDay, PastLastSecond, secondOfDay, date, Date.mk.injEq, dateLe]
  omega

end Instant

namespace Query

/-- **What the filter of a query keeps**: the direction and status pass their filters, the
swap falls on `dateFrom` or later, and on `dateTo` or earlier but not past the last whole
second of `dateTo`. -/
theorem admits_iff_dates (q : Query) (s : Swap) :
    q.admits s = true ↔ q.direction.admits s.direction ∧ q.status.admits s.status ∧
      (∀ d ∈ q.dateFrom, d ≤ s.time.date) ∧
      (∀ d ∈ q.dateTo, s.time.date ≤ d ∧ ¬ (s.time.date = d ∧ s.time.PastLastSecond)) := by
  rw [admits_iff]
  simp only [Admits, Instant.startOfDay_le_iff, Instant.le_endOfDay_iff]

/-- **The date bounds of a query, exactly**, and both bounds of every date of the range are
instants of the range, so computing them never overflows. -/
theorem admits_dates_iff (q : Query) (s : Swap) :
    (q.admits s = true ↔ q.direction.admits s.direction ∧ q.status.admits s.status ∧
      (∀ d ∈ q.dateFrom, d ≤ s.time.date) ∧
      (∀ d ∈ q.dateTo, s.time.date ≤ d ∧ ¬ (s.time.date = d ∧ s.time.PastLastSecond))) ∧
    ∀ d : Date, Date.min ≤ d → d ≤ Date.max →
      (Instant.startOfDay d).inRange ∧ (Instant.endOfDay d).inRange := by
  refine ⟨admits_iff_dates q s, fun d lower upper => ?_⟩
  simp only [Instant.inRange, Instant.date_startOfDay, Instant.date_endOfDay]
  exact ⟨decide_eq_true ⟨lower, upper⟩, decide_eq_true ⟨lower, upper⟩⟩

/-- The bounds of the last representable date are representable. -/
theorem admits_dates_iff_max :
    (Instant.startOfDay Date.max).inRange ∧ (Instant.endOfDay Date.max).inRange :=
  (admits_dates_iff default ⟨0, ⟨0, 0⟩, .solToUsdc, 0.0, 0.0, 0, 0.0, .pending, ""⟩).2 Date.max
    (by decide) (by decide)

/-- Half a second before midnight ending 2026-01-13 falls on that date, yet a query up to
that date leaves it out. -/
theorem lastSecond_fraction_excluded :
    let dateTo : Date := ⟨Date.dayOfCivil 2026 1 13⟩
    let s : Swap :=
      ⟨1, ⟨Date.dayOfCivil 2026 1 13 * 86400 + 86399, 500000000⟩, .solToUsdc, 2.0, 101.0, 10,
        0.002, .confirmed, "Sig1"⟩
    s.time.date ≤ dateTo ∧ (Query.default.withDates none (some dateTo)).admits s = false := by
  decide

end Query

end SwapDesk
