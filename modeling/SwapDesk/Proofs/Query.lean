import SwapDesk.Proofs.StableSort

/-! # What a ledger query returns

`Query.run_eq_iff_isStableSort`: the result is the one stable sort, by the column's key, of the
swaps the filters admit. Every column compares by a total preorder (`Column.transCmp`), which
makes that sort well defined.
-/

namespace SwapDesk

open Std

/-! ## Every column is a total preorder -/

theorem Instant.cmp_eq_compareLex :
    Instant.cmp = compareLex (compareOn Instant.seconds) (compareOn Instant.nanos) := by
  funext a b
  simp only [Instant.cmp, compareLex, compareOn]
  cases compare a.seconds b.seconds <;> rfl

instance Instant.transCmp : TransCmp Instant.cmp := by
  rw [Instant.cmp_eq_compareLex]
  infer_instance

instance : TransOrd Instant := Instant.transCmp

/-- Each column orders swaps by a total preorder on one key. -/
instance Column.transCmp (c : Column) : TransCmp c.compare := by
  cases c with
  | id => exact inferInstanceAs (TransCmp (compareOn Swap.id))
  | date => exact inferInstanceAs (TransCmp (compareOn Swap.time))
  | direction => exact inferInstanceAs (TransCmp (compareOn fun s : Swap => lowerCase s.direction.wireName))
  | amountIn => exact inferInstanceAs (TransCmp (compareOn fun s : Swap => totalKey s.amountIn))
  | amountOut => exact inferInstanceAs (TransCmp (compareOn fun s : Swap => totalKey s.amountOut))
  | tokenIn => exact inferInstanceAs (TransCmp (compareOn fun s : Swap => lowerCase s.tokenIn.symbol))
  | tokenOut => exact inferInstanceAs (TransCmp (compareOn fun s : Swap => lowerCase s.tokenOut.symbol))
  | slippageBps => exact inferInstanceAs (TransCmp (compareOn Swap.slippageBps))
  | fee => exact inferInstanceAs (TransCmp (compareOn fun s : Swap => totalKey s.fee))
  | status => exact inferInstanceAs (TransCmp (compareOn fun s : Swap => lowerCase s.status.name))
  | signature => exact inferInstanceAs (TransCmp (compareOn fun s : Swap => lowerCase s.signature))

/-! ## The filters -/

namespace Query

/-- A swap passes the filters of a query: its direction and status pass theirs, and it lies
no earlier than midnight of `dateFrom` and no later than `23:59:59` of `dateTo`, when these
are given. -/
def Admits (q : Query) (s : Swap) : Prop :=
  q.direction.admits s.direction ∧ q.status.admits s.status ∧
    (∀ d ∈ q.dateFrom, Instant.startOfDay d ≤ s.time) ∧
    (∀ d ∈ q.dateTo, s.time ≤ Instant.endOfDay d)

instance (q : Query) : DecidablePred q.Admits := fun _ =>
  inferInstanceAs (Decidable (_ ∧ _ ∧ _ ∧ _))

theorem admits_iff (q : Query) (s : Swap) : q.admits s = true ↔ q.Admits s := by
  unfold admits Admits
  cases q.dateFrom <;> cases q.dateTo <;> simp [and_assoc]

theorem filter_admits (q : Query) (swaps : List Swap) :
    swaps.filter q.admits = swaps.filter fun s => decide (q.Admits s) :=
  List.filter_congr fun s _ => by
    rw [Bool.eq_iff_iff, decide_eq_true_iff]
    exact admits_iff q s

/-! ## The result -/

/-- **A query returns the stable sort of the swaps it admits.** The result of `run` is the
one list that holds exactly the admitted swaps, in the query's order of its column, with
the swaps of equal keys in ledger order in either direction. -/
theorem run_eq_iff_isStableSort (q : Query) (swaps out : List Swap) :
    q.run swaps = out ↔
      IsStableSort q.column.compare q.order (swaps.filter fun s => decide (q.Admits s)) out := by
  rw [← filter_admits]
  exact mergeSort_eq_iff_isStableSort q.order _ out

/-- **Running a query on its own result changes nothing.** Every swap it returns passes its
filters again, and merge sort leaves a list that is already in the query's order as it is. -/
theorem run_run (q : Query) (swaps : List Swap) : q.run (q.run swaps) = q.run swaps := by
  have sort : IsStableSort q.column.compare q.order (swaps.filter q.admits) (q.run swaps) :=
    mergeSort_isStableSort q.order _
  have admitted : (q.run swaps).filter q.admits = q.run swaps := by
    rw [List.filter_eq_self]
    intro s mem
    exact (List.mem_filter.mp (sort.perm.subset mem)).2
  have sorted : (q.run swaps).Pairwise fun a b => q.before a b = true := by
    refine sort.sorted.imp fun {a b} inOrder => ?_
    rwa [Query.before, bne_gt_eq_isLE]
  show ((q.run swaps).filter q.admits).mergeSort q.before = q.run swaps
  rw [admitted, List.mergeSort_of_pairwise sorted]

end Query

end SwapDesk
