import Mathlib
import SwapDesk.Analytics.Volume

/-! # Weekly volume

A date's key is the one Sunday among it and the six days before (`Date.weekStart?_spec`); the
keys come out increasing, each once, and each week's sum is its leg over the window's swaps of
that week and direction, in ledger order (`weeklyVolume_spec`).
-/

namespace SwapDesk

/-! ## Weeks -/

namespace Date

def IsSunday (d : Date) : Prop := (d.day + 4) % 7 = 0

/-- Two dates of one week, from a Sunday to the Saturday after it. -/
def SameWeek (d₁ d₂ : Date) : Prop :=
  ∃ s : Date, s.IsSunday ∧ s.day ≤ d₁.day ∧ d₁.day ≤ s.day + 6 ∧ s.day ≤ d₂.day ∧ d₂.day ≤ s.day + 6

theorem lt_iff_day {a b : Date} : a < b ↔ a.day < b.day := Iff.rfl

theorem ext_day {a b : Date} (same : a.day = b.day) : a = b := by
  cases a
  cases b
  cases same
  rfl

/-- The key of a date is the Sunday among it and the six days before it. -/
theorem weekStart?_spec {d w : Date} (key : d.weekStart? = some w) :
    w.IsSunday ∧ w.day ≤ d.day ∧ d.day ≤ w.day + 6 := by
  simp only [weekStart?, addDays?, ofDay?] at key
  rw [Option.ite_none_right_eq_some, Option.some.injEq] at key
  obtain ⟨-, rfl⟩ := key
  simp only [IsSunday, daysFromSunday]
  omega

/-- A week holds one Sunday: a Sunday at most six days before a date is its key. -/
theorem eq_of_weekStart? {d w s : Date} (key : d.weekStart? = some w) (sunday : s.IsSunday)
    (after : s.day ≤ d.day) (within : d.day ≤ s.day + 6) : s = w := by
  obtain ⟨keySunday, keyAfter, keyWithin⟩ := weekStart?_spec key
  simp only [IsSunday] at sunday keySunday
  exact ext_day (by omega)

/-- Two dates have one key exactly when they lie in one week. -/
theorem weekStart?_eq_iff_sameWeek {d₁ d₂ w₁ w₂ : Date} (key₁ : d₁.weekStart? = some w₁)
    (key₂ : d₂.weekStart? = some w₂) : w₁ = w₂ ↔ SameWeek d₁ d₂ := by
  constructor
  · rintro rfl
    obtain ⟨sunday, after₁, within₁⟩ := weekStart?_spec key₁
    obtain ⟨-, after₂, within₂⟩ := weekStart?_spec key₂
    exact ⟨w₁, sunday, after₁, within₁, after₂, within₂⟩
  · rintro ⟨s, sunday, after₁, within₁, after₂, within₂⟩
    rw [← eq_of_weekStart? key₁ sunday after₁ within₁, eq_of_weekStart? key₂ sunday after₂ within₂]

end Date

/-! ## The keys, in order -/

theorem mem_insertDate {d x : Date} : ∀ {ws : List Date}, x ∈ insertDate d ws ↔ x = d ∨ x ∈ ws
  | [] => by simp [insertDate]
  | e :: es => by
    unfold insertDate
    split
    · simp
    · split
      next same => subst same; simp
      next => simp only [List.mem_cons, mem_insertDate]; tauto

/-- Inserting a date keeps a list of dates strictly increasing. -/
theorem pairwise_insertDate (d : Date) : ∀ {ws : List Date}, ws.Pairwise (· < ·) →
    (insertDate d ws).Pairwise (· < ·)
  | [], _ => List.pairwise_singleton _ _
  | e :: es, sorted => by
    obtain ⟨eFirst, esSorted⟩ := List.pairwise_cons.mp sorted
    unfold insertDate
    split
    next before =>
      refine List.pairwise_cons.mpr ⟨fun y mem => ?_, sorted⟩
      rcases List.mem_cons.mp mem with rfl | later
      · exact before
      · exact Date.lt_iff_day.mpr (Int.lt_trans before (eFirst y later))
    next notBefore =>
      split
      · exact sorted
      next different =>
        have after : e < d := by
          have : d.day ≠ e.day := fun same => different (Date.ext_day same)
          exact Date.lt_iff_day.mpr (by have := Date.lt_iff_day.not.mp notBefore; omega)
        refine List.pairwise_cons.mpr ⟨fun y mem => ?_, pairwise_insertDate d esSorted⟩
        rcases mem_insertDate.mp mem with rfl | later
        · exact after
        · exact eFirst y later

def collectWeeks (keyed : List (Swap × Date)) (ws : List Date) : List Date :=
  keyed.foldl (fun ws (_, w) => insertDate w ws) ws

theorem mem_collectWeeks {x : Date} : ∀ {keyed : List (Swap × Date)} {ws : List Date},
    x ∈ collectWeeks keyed ws ↔ x ∈ ws ∨ ∃ p ∈ keyed, p.2 = x
  | [], _ => by simp [collectWeeks]
  | (s, w) :: rest, ws => by
    show x ∈ collectWeeks rest (insertDate w ws) ↔ _
    rw [mem_collectWeeks, mem_insertDate]
    simp only [List.mem_cons, exists_eq_or_imp]
    tauto

theorem pairwise_collectWeeks : ∀ {keyed : List (Swap × Date)} {ws : List Date},
    ws.Pairwise (· < ·) → (collectWeeks keyed ws).Pairwise (· < ·)
  | [], _, sorted => sorted
  | (_, w) :: rest, ws, sorted => by
    show (collectWeeks rest (insertDate w ws)).Pairwise (· < ·)
    exact pairwise_collectWeeks (pairwise_insertDate w sorted)

/-! ## The swaps of the window, keyed -/

/-- A swap lies in the window from `start` to `asOf`, both ends included. -/
def Swap.InWindow (start asOf : Instant) (s : Swap) : Prop := start ≤ s.time ∧ s.time ≤ asOf

instance (start asOf : Instant) (s : Swap) : Decidable (s.InWindow start asOf) :=
  inferInstanceAs (Decidable (_ ∧ _))

/-- Keying a list of swaps by their weeks keeps the swaps and pairs each with its week. -/
theorem keyed_of_mapM : ∀ {swaps : List Swap} {keyed : List (Swap × Date)},
    swaps.mapM (fun s => (s, ·) <$> s.time.date.weekStart?) = some keyed →
      keyed.map Prod.fst = swaps ∧ ∀ p ∈ keyed, p.1.time.date.weekStart? = some p.2
  | [], keyed, keyedAll => by
    simp only [List.mapM_nil, pure, Option.some.injEq] at keyedAll
    subst keyedAll
    simp
  | s :: rest, keyed, keyedAll => by
    rw [List.mapM_cons] at keyedAll
    obtain ⟨⟨s', w⟩, key, keyedAll⟩ := Option.bind_eq_some_iff.mp keyedAll
    obtain ⟨keyedRest, restAll, consed⟩ := Option.bind_eq_some_iff.mp keyedAll
    obtain ⟨w', found, paired⟩ := Option.map_eq_some_iff.mp key
    cases paired
    cases consed
    obtain ⟨firsts, keys⟩ := keyed_of_mapM restAll
    refine ⟨by simp [firsts], fun p mem => ?_⟩
    rcases List.mem_cons.mp mem with rfl | later
    · exact found
    · exact keys p later

/-! ## The sums -/

/-- The sum, in ledger order and from zero, of `amount` over the swaps of the window that
fall in the week keyed `week` and trade in direction `dir`. -/
def weekTotal (swaps : List Swap) (start asOf : Instant) (week : Date) (dir : Direction)
    (amount : Swap → Float) : Float :=
  ((swaps.filter fun s => decide (s.InWindow start asOf ∧ s.time.date.weekStart? = some week ∧
    s.direction = dir)).map amount).foldl (· + ·) 0.0

theorem legSum_eq (keyed : List (Swap × Date)) (week : Date) (dir : Direction) :
    legSum keyed week dir = (((keyed.filter fun p => decide (p.2 = week ∧ p.1.direction = dir)).map
      Prod.fst).map Swap.usdLeg).foldl (· + ·) 0.0 := by
  unfold legSum
  rw [List.foldl_map, List.foldl_map]

/-- The sum a week keeps for a direction is the sum of the legs of the window's swaps of
that week and direction, taken in ledger order. -/
theorem legSum_eq_weekTotal {swaps : List Swap} {start asOf : Instant} {keyed : List (Swap × Date)}
    (firsts : keyed.map Prod.fst =
      swaps.filter fun s => decide (start ≤ s.time) && decide (s.time ≤ asOf))
    (keys : ∀ p ∈ keyed, p.1.time.date.weekStart? = some p.2) (week : Date) (dir : Direction) :
    legSum keyed week dir = weekTotal swaps start asOf week dir Swap.usdLeg := by
  -- a keyed swap belongs to a week exactly when its own key is that week
  have byKey : ∀ p ∈ keyed, decide (p.2 = week ∧ p.1.direction = dir) =
      ((fun s => decide (s.time.date.weekStart? = some week ∧ s.direction = dir)) ∘ Prod.fst) p := by
    intro p mem
    simp only [Function.comp, keys p mem, Option.some.injEq]
  rw [legSum_eq, List.filter_congr byKey, ← List.filter_map, firsts, List.filter_filter]
  unfold weekTotal
  congr 2
  apply List.filter_congr
  intro s _
  rw [Bool.eq_iff_iff, decide_eq_true_iff]
  simp only [Swap.InWindow, Bool.and_eq_true, decide_eq_true_eq]
  tauto

/-- Over the swaps of its own direction, the USD-like leg is the amount received for SOL to
USDC and the amount spent for USDC to SOL. -/
theorem weekTotal_usdLeg (swaps : List Swap) (start asOf : Instant) (week : Date) :
    weekTotal swaps start asOf week .solToUsdc Swap.usdLeg =
        weekTotal swaps start asOf week .solToUsdc Swap.amountOut ∧
      weekTotal swaps start asOf week .usdcToSol Swap.usdLeg =
        weekTotal swaps start asOf week .usdcToSol Swap.amountIn := by
  constructor <;>
  · unfold weekTotal
    congr 1
    apply List.map_congr_left
    intro s mem
    have direction := (of_decide_eq_true (List.mem_filter.mp mem).2).2.2
    simp [Swap.usdLeg, direction]

/-- A week without swaps in a direction sums to zero in it. -/
theorem weekTotal_eq_zero {swaps : List Swap} {start asOf : Instant} {week : Date}
    {dir : Direction} (amount : Swap → Float)
    (none : ∀ s ∈ swaps, s.InWindow start asOf → s.time.date.weekStart? = some week →
      s.direction ≠ dir) :
    weekTotal swaps start asOf week dir amount = 0.0 := by
  have empty : (swaps.filter fun s => decide (s.InWindow start asOf ∧
      s.time.date.weekStart? = some week ∧ s.direction = dir)) = [] := by
    rw [List.filter_eq_nil_iff]
    intro s mem passes
    obtain ⟨inWindow, key, direction⟩ := of_decide_eq_true passes
    exact none s mem inWindow key direction
  rw [weekTotal, empty]
  rfl

theorem roundHalfAway_zero_toUInt64 : (roundHalfAway 0.0).toUInt64 = 0 := by decide

/-! ## The result -/

/-- What a weekly volume over a window holds: its weeks in strictly increasing order, exactly
the keys of the swaps in the window; each key the Sunday that opens its swaps' week; and for
each week, each direction's leg summed in ledger order from zero and rounded once, to zero
when the week has no swap in that direction. -/
structure IsWeeklyVolume (swaps : List Swap) (start asOf : Instant) (out : List WeekVolume) :
    Prop where
  sorted : (out.map WeekVolume.weekStart).Pairwise (· < ·)
  weeks : ∀ w, w ∈ out.map WeekVolume.weekStart ↔
    ∃ s ∈ swaps, s.InWindow start asOf ∧ s.time.date.weekStart? = some w
  sunday : ∀ s ∈ swaps, s.InWindow start asOf → ∃ w, s.time.date.weekStart? = some w ∧
    w.IsSunday ∧ w.day ≤ s.time.date.day ∧ s.time.date.day ≤ w.day + 6 ∧
    ∀ w' : Date, w'.IsSunday → w'.day ≤ s.time.date.day → s.time.date.day ≤ w'.day + 6 → w' = w
  sameWeek : ∀ s₁ ∈ swaps, ∀ s₂ ∈ swaps, s₁.InWindow start asOf → s₂.InWindow start asOf →
    (s₁.time.date.weekStart? = s₂.time.date.weekStart? ↔ Date.SameWeek s₁.time.date s₂.time.date)
  solToUsdc : ∀ v ∈ out, v.solToUsdc =
    (roundHalfAway (weekTotal swaps start asOf v.weekStart .solToUsdc Swap.amountOut)).toUInt64
  usdcToSol : ∀ v ∈ out, v.usdcToSol =
    (roundHalfAway (weekTotal swaps start asOf v.weekStart .usdcToSol Swap.amountIn)).toUInt64
  noSolToUsdc : ∀ v ∈ out, (∀ s ∈ swaps, s.InWindow start asOf →
    s.time.date.weekStart? = some v.weekStart → s.direction ≠ .solToUsdc) → v.solToUsdc = 0
  noUsdcToSol : ∀ v ∈ out, (∀ s ∈ swaps, s.InWindow start asOf →
    s.time.date.weekStart? = some v.weekStart → s.direction ≠ .usdcToSol) → v.usdcToSol = 0

/-- What `weeklyVolume` computes when it returns: the start of the window, and the swaps of
the window keyed by their weeks. -/
theorem weeklyVolume_eq_some {swaps : List Swap} {days : Nat} {asOf : Instant}
    {out : List WeekVolume} (returns : weeklyVolume swaps days asOf = some out) :
    ∃ start keyed, asOf.subDays? days = some start ∧
      (swaps.filter fun s => decide (start ≤ s.time) && decide (s.time ≤ asOf)).mapM
        (fun s => (s, ·) <$> s.time.date.weekStart?) = some keyed ∧
      out = (collectWeeks keyed []).map fun w =>
        ⟨w, (roundHalfAway (legSum keyed w .solToUsdc)).toUInt64,
          (roundHalfAway (legSum keyed w .usdcToSol)).toUInt64⟩ := by
  unfold weeklyVolume at returns
  obtain ⟨start, window, returns⟩ := Option.bind_eq_some_iff.mp returns
  obtain ⟨keyed, keying, returns⟩ := Option.bind_eq_some_iff.mp returns
  exact ⟨start, keyed, window, keying, (Option.some.inj returns).symm⟩

theorem mem_window_iff {swaps : List Swap} {start asOf : Instant} {s : Swap} :
    s ∈ swaps.filter (fun s => decide (start ≤ s.time) && decide (s.time ≤ asOf)) ↔
      s ∈ swaps ∧ s.InWindow start asOf := by
  simp [Swap.InWindow]

/-- Each swap of the window stands in the keyed list. -/
theorem keyed_of_inWindow {swaps : List Swap} {start asOf : Instant} {keyed : List (Swap × Date)}
    (firsts : keyed.map Prod.fst =
      swaps.filter fun s => decide (start ≤ s.time) && decide (s.time ≤ asOf))
    {s : Swap} (mem : s ∈ swaps) (inWindow : s.InWindow start asOf) : ∃ p ∈ keyed, p.1 = s := by
  have listed : s ∈ keyed.map Prod.fst := firsts ▸ mem_window_iff.mpr ⟨mem, inWindow⟩
  simpa using listed

/-- Each swap of the window is keyed by the Sunday that opens its week, and by no other
Sunday. -/
theorem weekStart_of_inWindow {swaps : List Swap} {start asOf : Instant}
    {keyed : List (Swap × Date)}
    (firsts : keyed.map Prod.fst =
      swaps.filter fun s => decide (start ≤ s.time) && decide (s.time ≤ asOf))
    (keys : ∀ p ∈ keyed, p.1.time.date.weekStart? = some p.2)
    {s : Swap} (mem : s ∈ swaps) (inWindow : s.InWindow start asOf) :
    ∃ w, s.time.date.weekStart? = some w ∧ w.IsSunday ∧ w.day ≤ s.time.date.day ∧
      s.time.date.day ≤ w.day + 6 ∧
      ∀ w' : Date, w'.IsSunday → w'.day ≤ s.time.date.day → s.time.date.day ≤ w'.day + 6 →
        w' = w := by
  obtain ⟨⟨s', w⟩, listed, rfl⟩ := keyed_of_inWindow firsts mem inWindow
  have key : s'.time.date.weekStart? = some w := keys _ listed
  obtain ⟨sunday, after, within⟩ := Date.weekStart?_spec key
  exact ⟨w, key, sunday, after, within,
    fun w' sunday' after' within' => Date.eq_of_weekStart? key sunday' after' within'⟩

/-- **What a weekly volume returns.** Whenever it returns, its weeks are, in increasing order,
the Sundays opening the weeks of the window's swaps, and each week's legs are the USDC received
and spent, summed in ledger order and rounded once (`IsWeeklyVolume`). -/
theorem weeklyVolume_spec {swaps : List Swap} {days : Nat} {asOf : Instant}
    {out : List WeekVolume} (returns : weeklyVolume swaps days asOf = some out) :
    ∃ start, asOf.subDays? days = some start ∧ IsWeeklyVolume swaps start asOf out := by
  obtain ⟨start, keyed, window, keying, rfl⟩ := weeklyVolume_eq_some returns
  obtain ⟨firsts, keys⟩ := keyed_of_mapM keying
  have weekStarts : List.map WeekVolume.weekStart ((collectWeeks keyed []).map fun w =>
      (⟨w, (roundHalfAway (legSum keyed w .solToUsdc)).toUInt64,
        (roundHalfAway (legSum keyed w .usdcToSol)).toUInt64⟩ : WeekVolume)) =
      collectWeeks keyed [] := by
    rw [List.map_map]
    exact List.map_id' _
  refine ⟨start, window, ⟨?sorted, ?weeks, fun s mem => weekStart_of_inWindow firsts keys mem,
    ?sameWeek, ?solToUsdc, ?usdcToSol, ?noSolToUsdc, ?noUsdcToSol⟩⟩
  case sorted =>
    rw [weekStarts]
    exact pairwise_collectWeeks List.Pairwise.nil
  case weeks =>
    intro w
    rw [weekStarts, mem_collectWeeks]
    constructor
    · rintro (empty | ⟨p, listed, rfl⟩)
      · cases empty
      · have inWindow := mem_window_iff.mp (firsts ▸ List.mem_map_of_mem listed)
        exact ⟨p.1, inWindow.1, inWindow.2, keys p listed⟩
    · rintro ⟨s, mem, inWindow, key⟩
      obtain ⟨p, listed, rfl⟩ := keyed_of_inWindow firsts mem inWindow
      exact .inr ⟨p, listed, Option.some.inj ((keys p listed).symm.trans key)⟩
  case sameWeek =>
    intro s₁ mem₁ s₂ mem₂ inWindow₁ inWindow₂
    obtain ⟨w₁, key₁, -⟩ := weekStart_of_inWindow firsts keys mem₁ inWindow₁
    obtain ⟨w₂, key₂, -⟩ := weekStart_of_inWindow firsts keys mem₂ inWindow₂
    rw [key₁, key₂, Option.some.injEq]
    exact Date.weekStart?_eq_iff_sameWeek key₁ key₂
  case solToUsdc =>
    intro v mem
    obtain ⟨w, -, rfl⟩ := List.mem_map.mp mem
    simp only [legSum_eq_weekTotal firsts keys, (weekTotal_usdLeg swaps start asOf w).1]
  case usdcToSol =>
    intro v mem
    obtain ⟨w, -, rfl⟩ := List.mem_map.mp mem
    simp only [legSum_eq_weekTotal firsts keys, (weekTotal_usdLeg swaps start asOf w).2]
  case noSolToUsdc =>
    intro v mem none
    obtain ⟨w, -, rfl⟩ := List.mem_map.mp mem
    simp only [legSum_eq_weekTotal firsts keys, weekTotal_eq_zero _ none, roundHalfAway_zero_toUInt64]
  case noUsdcToSol =>
    intro v mem none
    obtain ⟨w, -, rfl⟩ := List.mem_map.mp mem
    simp only [legSum_eq_weekTotal firsts keys, weekTotal_eq_zero _ none, roundHalfAway_zero_toUInt64]

/-- Two sales of SOL on Monday 2026-02-09 and Tuesday 2026-02-10, for 100 and 50 USDC, seen
over the thirty days up to 2026-02-11 23:59:59: one week, opened on Sunday 2026-02-08, with
150 USDC received and none spent. -/
theorem weeklyVolume_two_sales :
    let swaps : List Swap :=
      [⟨1, ⟨20493 * 86400 + 36000, 0⟩, .solToUsdc, 0.7, 100.0, 10, 0.0, .confirmed, ""⟩,
        ⟨2, ⟨20494 * 86400 + 54000, 0⟩, .solToUsdc, 0.35, 50.0, 10, 0.0, .confirmed, ""⟩]
    let asOf : Instant := ⟨20495 * 86400 + 86399, 0⟩
    weeklyVolume swaps 30 asOf = some [⟨⟨20492⟩, 150, 0⟩] ∧
      ∃ start, asOf.subDays? 30 = some start ∧ IsWeeklyVolume swaps start asOf [⟨⟨20492⟩, 150, 0⟩] :=
  have returns : weeklyVolume
      [⟨1, ⟨20493 * 86400 + 36000, 0⟩, .solToUsdc, 0.7, 100.0, 10, 0.0, .confirmed, ""⟩,
        ⟨2, ⟨20494 * 86400 + 54000, 0⟩, .solToUsdc, 0.35, 50.0, 10, 0.0, .confirmed, ""⟩]
      30 ⟨20495 * 86400 + 86399, 0⟩ = some [⟨⟨20492⟩, 150, 0⟩] := by decide
  ⟨returns, weeklyVolume_spec returns⟩

end SwapDesk
