import Mathlib
import SwapDesk.Simulation.Trades
import SwapDesk.Config.Basic
import SwapDesk.Proofs.History
import SwapDesk.Proofs.Scaling
import SwapDesk.Proofs.Query

/-! # The simulated ledger

Each swap truncates three draws, its day, second and slippage, and `truncate_mul_lt` keeps each
below its bound for every number the generator can draw. A step lemma for one swap, a run lemma
for the draws, and the stable newest-first sort give `generateSwaps_spec`.
-/

namespace SwapDesk

open MinStd Binary64 Std

/-! ## Profiles and ledgers -/

/-- A profile a ledger can be drawn from: at least one day, all of them on the calendar. -/
def TradeProfile.Drawable (p : TradeProfile) : Prop :=
  1 ≤ p.spanDays.toNat ∧ Date.min.day ≤ p.start.day ∧
    p.start.day + p.spanDays.toNat ≤ Date.max.day + 1

instance (p : TradeProfile) : Decidable p.Drawable := inferInstanceAs (Decidable (_ ∧ _))

/-- A swap as a profile draws it: at a whole second of a day of the span, with a slippage of
5 to 34 basis points. -/
structure TradeProfile.Admits (p : TradeProfile) (s : Swap) : Prop where
  wholeSecond : s.time.nanos = 0
  onSpan : p.start.day ≤ s.time.date.day ∧ s.time.date.day < p.start.day + p.spanDays.toNat
  slippage : 5 ≤ s.slippageBps.toNat ∧ s.slippageBps.toNat ≤ 34

/-- A ledger of `count` swaps from a profile: ids `1 … count` in some order, newest first,
the swaps of one instant by increasing id, each within the profile. -/
structure IsLedger (p : TradeProfile) (count : Nat) (swaps : List Swap) : Prop where
  ids : (swaps.map fun s => s.id.toNat).Perm (List.range' 1 count)
  newestFirst : swaps.Pairwise fun a b => b.time ≤ a.time
  tiesById : swaps.Pairwise fun a b => a.time = b.time → a.id < b.id
  admitted : ∀ s ∈ swaps, p.Admits s

theorem IsLedger.length_eq {p : TradeProfile} {count : Nat} {swaps : List Swap}
    (ledger : IsLedger p count swaps) : swaps.length = count := by
  rw [← List.length_map (fun s : Swap => s.id.toNat), ledger.ids.length_eq, List.length_range']

/-! ## One swap -/

theorem step_state_lt (g : MinStd) : (step g).state < modulus := Nat.mod_lt _ (by decide)

/-- The slippage of a draw, `5 + ⌊r · 30⌋`, lies in `[5, 34]`. -/
theorem slippage_mem {r : Float} (draw : IsDraw r) :
    5 ≤ (5 + (r * 30.0).toUInt32).toNat ∧ (5 + (r * 30.0).toUInt32).toNat ≤ 34 := by
  have below := (truncate_mul_lt draw (by decide) (by decide)
    (by rfl : (30.0 : Float).toModel.unpack = (Float.ofNat 30).toModel.unpack)).2
  rw [UInt32.toNat_add]
  have five : (5 : UInt32).toNat = 5 := rfl
  omega

theorem date_day_of_second (day : Int) {second : Nat} (within : second < 86400) :
    (⟨day * 86400 + second, 0⟩ : Instant).date.day = day := by
  simp only [Instant.date]
  omega

/-- A day of a drawable profile's span lies on the calendar, at every second of the day. -/
theorem TradeProfile.inRange_of_lt {p : TradeProfile} (drawable : p.Drawable) {day second : Nat}
    (inSpan : day < p.spanDays.toNat) (inDay : second < 86400) :
    (⟨(p.start.day + day) * 86400 + second, 0⟩ : Instant).inRange = true := by
  obtain ⟨-, first, last⟩ := drawable
  simp only [Instant.inRange, date_day_of_second _ inDay, decide_eq_true_eq]
  omega

/-- **Step lemma.** The swap with index `i` is drawn, with id `i + 1`, within the profile. -/
theorem drawSwap_run {p : TradeProfile} (drawable : p.Drawable) (i : Nat) (g : MinStd) :
    ∃ s, ((drawSwap p i).run g).1 = some s ∧ s.id = i.toUInt32 + 1 ∧ p.Admits s := by
  -- the day and the second stay below their bounds whatever the state
  have dayBelow := (truncate_mul_lt (isDraw_unit (step_state_lt g)) drawable.1
    p.spanDays.toNat_lt rfl).1
  have secondBelow := (truncate_mul_lt (isDraw_unit (step_state_lt (step g))) (by decide)
    (by decide) (by rfl : (86400.0 : Float).toModel.unpack = (Float.ofNat 86400).toModel.unpack)).1
  have onDay := date_day_of_second
    (p.start.day + ((step g).unit * Float.ofNat p.spanDays.toNat).toUInt64.toNat) secondBelow
  simp only [drawSwap, run_bind, nextFloat_run]
  simp only [p.inRange_of_lt drawable dayBelow secondBelow, if_true]
  refine ⟨_, rfl, rfl, ⟨rfl, ?_, slippage_mem (isDraw_unit (step_state_lt _))⟩⟩
  rw [onDay]
  omega

/-! ## A run of swaps -/

theorem toNat_id (i : Nat) (fits : i + 1 < 2 ^ 32) : (i.toUInt32 + 1).toNat = i + 1 := by
  simp only [UInt32.toNat_add, Nat.toUInt32, UInt32.toNat_ofNat', UInt32.reduceToNat]
  omega

/-- **Run lemma.** `n` swaps drawn from index `i` carry the ids `i + 1 … i + n` in order,
each within the profile, as long as the ids fit in 32 bits. -/
theorem drawSwaps_run {p : TradeProfile} (drawable : p.Drawable) :
    ∀ n i g, i + n < 2 ^ 32 → ∃ swaps : List Swap,
      ((drawSwaps p n i).run g).1 = some swaps ∧
      swaps.map (fun s => s.id.toNat) = List.range' (i + 1) n ∧ ∀ s ∈ swaps, p.Admits s
  | 0, _, _, _ => ⟨[], rfl, rfl, fun _ none => absurd none List.not_mem_nil⟩
  | n + 1, i, g, fits => by
    obtain ⟨s, drawn, id, admits⟩ := drawSwap_run drawable i g
    obtain ⟨rest, restDrawn, restIds, restAdmitted⟩ :=
      drawSwaps_run drawable n (i + 1) ((drawSwap p i).run g).2 (by omega)
    -- the first swap, then the rest of the run from the state it leaves
    refine ⟨s :: rest, ?_, ?_, ?_⟩
    · simp only [drawSwaps, run_bind, drawn]
      rw [restDrawn]
      rfl
    · rw [List.map_cons, restIds, id, toNat_id i (by omega), List.range'_succ]
    · intro t mem
      rcases List.mem_cons.mp mem with rfl | later
      · exact admits
      · exact restAdmitted t later

/-! ## Newest first -/

theorem newestFirst_eq_desc :
    (fun a b : Swap => Instant.cmp b.time a.time != .gt) =
      fun a b => Order.desc.apply (compareOn Swap.time a b) != .gt := by
  funext a b
  show _ = ((Instant.cmp a.time b.time).swap != .gt)
  rw [← @OrientedCmp.eq_swap _ Instant.cmp _ b.time a.time]

/-- Sorting swaps drawn with the ids `1 … count` in order, each within the profile, newest
first gives a ledger: the sort keeps the values, puts no instant before a later one, and
leaves the swaps of one instant in the order drawn, which is the order of their ids. -/
theorem isLedger_mergeSort {p : TradeProfile} {count : Nat} {drawn : List Swap}
    (ids : drawn.map (fun s => s.id.toNat) = List.range' 1 count)
    (admitted : ∀ s ∈ drawn, p.Admits s) :
    IsLedger p count (drawn.mergeSort fun a b => Instant.cmp b.time a.time != .gt) := by
  rw [newestFirst_eq_desc]
  have sort := @mergeSort_isStableSort Swap (compareOn Swap.time) _ Order.desc drawn
  have increasing : drawn.Pairwise fun a b => a.id.toNat < b.id.toNat := by
    rw [← List.pairwise_map, ids]
    exact List.pairwise_lt_range'
  refine ⟨ids ▸ sort.perm.map _, ?_, ?_, fun s mem => admitted s (sort.perm.subset mem)⟩
  · refine sort.sorted.imp fun {a b} before => ?_
    -- the descending reading of `a` against `b` is the reading of `b` against `a`
    have reversed : (Instant.cmp b.time a.time).isLE = true := by
      rwa [@OrientedCmp.eq_swap _ Instant.cmp _ b.time a.time]
    show Instant.cmp b.time a.time ≠ .gt
    intro later
    rw [later] at reversed
    exact absurd reversed (by decide)
  · -- two swaps of one instant stand in the sorted list as among the swaps of that instant,
    -- which the stable sort leaves in the order drawn
    refine List.pairwise_iff_forall_sublist.mpr fun {a b} pair same => ?_
    have sameKey : ∀ y ∈ [a, b], (compareOn Swap.time y a == .eq) = true := by
      intro y mem
      rcases List.mem_pair.mp mem with rfl | rfl
      · simp [compareOn, ReflCmp.compare_self]
      · simp [compareOn, ← same, ReflCmp.compare_self]
    have inClass := pair.filter fun y => compareOn Swap.time y a == .eq
    rw [List.filter_eq_self.mpr sameKey, sort.stable a] at inClass
    have inOrder := List.pairwise_pair.mp (increasing.sublist (inClass.trans List.filter_sublist))
    exact UInt32.lt_iff_toNat_lt.mpr inOrder

/-! ## The ledger of a profile -/

theorem generateSwaps_run (p : TradeProfile) (count : Nat) (g : MinStd) :
    ((generateSwaps p count).run g).1 = ((drawSwaps p count 0).run g).1.map
      fun l => l.mergeSort fun a b => Instant.cmp b.time a.time != .gt := by
  simp only [generateSwaps, run_bind]
  rfl

/-- A drawable profile gives a ledger of `count` swaps, from any state. -/
theorem generateSwaps_isLedger {p : TradeProfile} (drawable : p.Drawable) {count : Nat}
    (fits : count < 2 ^ 32) (g : MinStd) :
    ∃ swaps, ((generateSwaps p count).run g).1 = some swaps ∧ IsLedger p count swaps := by
  obtain ⟨drawn, run, ids, admitted⟩ := drawSwaps_run drawable count 0 g (by omega)
  rw [Nat.zero_add] at ids
  refine ⟨_, ?_, isLedger_mergeSort ids admitted⟩
  rw [generateSwaps_run, run]
  rfl

theorem calendar_days_lt : Date.max.day - Date.min.day < 4294967295 := by decide

/-- The profile of a configuration whose window is accepted and lies on the calendar is
drawable: it starts on the window's first day and spans exactly the window's days, a count
that fits in 32 bits. -/
theorem Config.profile_drawable (c : Config) (accepted : c.window.validate = .ok c.window)
    (first : Date.min ≤ c.window.start) (last : c.window.finish ≤ Date.max) :
    c.profile.Drawable ∧ c.profile.start = c.window.start ∧
      (c.profile.spanDays.toNat : Int) = c.window.finish.day - c.window.start.day + 1 := by
  have ordered : c.window.isOrdered = true := by
    unfold HistoryWindow.validate at accepted
    split at accepted
    · assumption
    · cases accepted
  simp only [HistoryWindow.isOrdered, decide_eq_true_eq] at ordered
  obtain ⟨first₂, second₃, third₄⟩ := ordered
  -- the dates are compared by their day numbers
  have days : c.window.start.day ≤ c.window.phase2.day ∧ c.window.phase2.day ≤ c.window.phase3.day ∧
      c.window.phase3.day ≤ c.window.finish.day ∧ Date.min.day ≤ c.window.start.day ∧
      c.window.finish.day ≤ Date.max.day := ⟨first₂, second₃, third₄, first, last⟩
  have calendar := calendar_days_lt
  have span : (c.profile.spanDays.toNat : Int) = c.window.finish.day - c.window.start.day + 1 := by
    simp only [Config.profile, HistoryWindow.totalDays, Nat.toUInt32, UInt32.toNat_ofNat',
      Nat.pow_eq]
    omega
  have start : c.profile.start = c.window.start := rfl
  refine ⟨⟨by omega, ?_, ?_⟩, start, span⟩
  · rw [start]
    exact first
  · rw [start, span]
    omega

/-! ## The main statement -/

/-- **A ledger drawn from a profile.** From any state, `count < 2^32` swaps over a drawable
profile form a ledger (`IsLedger`); a configuration's accepted window gives such a profile, and
the swaps fall on the window's days. -/
theorem generateSwaps_spec (count : Nat) (g : MinStd) (fits : count < 2 ^ 32) :
    (∀ p : TradeProfile, p.Drawable →
      ∃ swaps, ((generateSwaps p count).run g).1 = some swaps ∧ swaps.length = count ∧
        IsLedger p count swaps) ∧
    (∀ c : Config, c.window.validate = .ok c.window → Date.min ≤ c.window.start →
      c.window.finish ≤ Date.max →
      ∃ swaps, ((generateSwaps c.profile count).run g).1 = some swaps ∧
        swaps.length = count ∧ IsLedger c.profile count swaps ∧
        ∀ s ∈ swaps, c.window.start ≤ s.time.date ∧ s.time.date ≤ c.window.finish) := by
  refine ⟨fun p drawable => ?_, fun c accepted first last => ?_⟩
  · obtain ⟨swaps, run, ledger⟩ := generateSwaps_isLedger drawable fits g
    exact ⟨swaps, run, ledger.length_eq, ledger⟩
  · obtain ⟨drawable, start, span⟩ := c.profile_drawable accepted first last
    obtain ⟨swaps, run, ledger⟩ := generateSwaps_isLedger drawable fits g
    refine ⟨swaps, run, ledger.length_eq, ledger, fun s mem => ?_⟩
    -- a day of the profile's span is a day of the window
    obtain ⟨notBefore, before⟩ := (ledger.admitted s mem).onSpan
    rw [start] at notBefore before
    rw [span] at before
    exact ⟨notBefore, show s.time.date.day ≤ c.window.finish.day by omega⟩

/-- The default profile, three swaps from the state `7`, and the default configuration. -/
theorem generateSwaps_default :
    (3 : Nat) < 2 ^ 32 ∧ TradeProfile.default.Drawable ∧
      (∃ swaps, ((generateSwaps TradeProfile.default 3).run ⟨7⟩).1 = some swaps ∧
        swaps.length = 3 ∧ IsLedger TradeProfile.default 3 swaps) ∧
      ({} : Config).window.validate = .ok ({} : Config).window ∧
      Date.min ≤ ({} : Config).window.start ∧ ({} : Config).window.finish ≤ Date.max ∧
      ∃ swaps, ((generateSwaps ({} : Config).profile 3).run ⟨7⟩).1 = some swaps ∧
        swaps.length = 3 ∧ IsLedger ({} : Config).profile 3 swaps ∧
        ∀ s ∈ swaps, ({} : Config).window.start ≤ s.time.date ∧
          s.time.date ≤ ({} : Config).window.finish :=
  have fits : (3 : Nat) < 2 ^ 32 := by decide
  have drawable : TradeProfile.default.Drawable := by decide
  have accepted : ({} : Config).window.validate = .ok ({} : Config).window := rfl
  have first : Date.min ≤ ({} : Config).window.start := by decide
  have last : ({} : Config).window.finish ≤ Date.max := by decide
  ⟨fits, drawable, (generateSwaps_spec 3 ⟨7⟩ fits).1 _ drawable, accepted, first, last,
    (generateSwaps_spec 3 ⟨7⟩ fits).2 _ accepted first last⟩

end SwapDesk
