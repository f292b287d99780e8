import Mathlib
import SwapDesk.Proofs.Query

/-! # Turning the order of a query around

A stable sort reverses the comparison, not the result, so the descending result is the ascending
one with its runs of equal keys reversed, each run kept in ledger order
(`Query.run_desc_eq_reverseRuns`).
-/

namespace SwapDesk

open Std

variable {α : Type} {cmp : α → α → Ordering}

/-- The maximal runs of neighbours with equal keys, in reverse order, each run in its own
order. -/
def reverseRuns (cmp : α → α → Ordering) (l : List α) : List α :=
  (l.splitBy fun a b => cmp a b == .eq).reverse.flatten

/-- Reversing a list of lists of which at most one is non-empty keeps its flattening. -/
theorem flatten_reverse_of_pairwise_nil {β : Type} :
    ∀ {M : List (List β)}, M.Pairwise (fun u v => u = [] ∨ v = []) → M.reverse.flatten = M.flatten
  | [], _ => rfl
  | u :: M, apart => by
    rw [List.pairwise_cons] at apart
    rw [List.reverse_cons, List.flatten_append, flatten_reverse_of_pairwise_nil apart.2]
    by_cases empty : u = []
    · simp [empty]
    · have rest : M.flatten = [] :=
        List.flatten_eq_nil_iff.mpr fun v mem => (apart.1 v mem).resolve_left empty
      simp [rest]

namespace Order

theorem apply_flip (o : Order) (x : Ordering) : o.flip.apply x = (o.apply x).swap := by
  cases o <;> simp [flip, apply, Ordering.swap_swap]

/-- The other order compares two values as this order compares them the other way round. -/
theorem flip_apply_cmp [OrientedCmp cmp] (o : Order) (a b : α) :
    o.flip.apply (cmp a b) = o.apply (cmp b a) := by
  rw [apply_flip, @OrientedCmp.eq_swap _ cmp _ a b]
  cases o <;> simp [apply, Ordering.swap_swap]

end Order

/-- A value that may stand before another, with a different key, stands strictly before. -/
theorem lt_of_isLE_of_ne {o : Order} {a b : α} (le : (o.apply (cmp a b)).isLE)
    (ne : cmp a b ≠ .eq) : o.apply (cmp a b) = .lt := by
  have notEq : o.apply (cmp a b) ≠ .eq := fun eq => ne ((o.apply_eq_eq_iff _).mp eq)
  revert le notEq
  cases o.apply (cmp a b) <;> simp

section TotalPreorder

variable [TransCmp cmp]

theorem eq_of_mem_run {l g : List α} (run : g ∈ l.splitBy fun a b => cmp a b == .eq)
    {a b : α} (memA : a ∈ g) (memB : b ∈ g) : cmp a b = .eq := by
  have chain : g.IsChain fun x y => cmp x y = .eq :=
    (List.isChain_of_mem_splitBy run).imp fun _ _ same => by simpa using same
  have : Trans (fun x y : α => cmp x y = .eq) (fun x y => cmp x y = .eq)
      (fun x y => cmp x y = .eq) := ⟨TransCmp.eq_trans⟩
  have : Std.Symm (fun x y : α => cmp x y = .eq) := ⟨fun _ _ => OrientedCmp.eq_symm⟩
  by_cases same : a = b
  · subst same
    exact ReflCmp.compare_self
  · exact (List.isChain_iff_pairwise.mp chain).forall memA memB same

/-- Runs of equal keys whose boundaries separate different keys, in a sorted list, are
strictly ordered: the first key of the next run lies strictly after every key of a run, and
every later key lies at or after it. -/
theorem pairwise_lt_of_runs {o : Order} :
    ∀ {L : List (List α)}, (∀ g ∈ L, ∀ a ∈ g, ∀ b ∈ g, cmp a b = .eq) →
      L.IsChain (fun g h => ∃ hg hh, (cmp (g.getLast hg) (h.head hh) == .eq) = false) →
      L.flatten.Pairwise (fun a b => (o.apply (cmp a b)).isLE) →
      L.Pairwise fun g h => ∀ a ∈ g, ∀ b ∈ h, o.apply (cmp a b) = .lt
  | [], _, _, _ => .nil
  | [_], _, _, _ => List.pairwise_singleton _ _
  | g :: h :: L, same, boundaries, sorted => by
    obtain ⟨⟨nonemptyG, nonemptyH, apart⟩, boundariesTail⟩ := List.isChain_cons_cons.mp boundaries
    rw [List.flatten_cons, List.pairwise_append] at sorted
    obtain ⟨-, sortedTail, across⟩ := sorted
    have sameTail : ∀ k ∈ h :: L, ∀ a ∈ k, ∀ b ∈ k, cmp a b = .eq :=
      fun k mem => same k (List.mem_cons_of_mem g mem)
    refine List.Pairwise.cons (fun k memK a memA b memB => ?_)
      (pairwise_lt_of_runs sameTail boundariesTail sortedTail)
    have headFirst : (h :: L).flatten = h.head nonemptyH :: (h.tail ++ L.flatten) := by
      rw [List.flatten_cons, ← List.cons_append, List.cons_head_tail nonemptyH]
    have afterRun : o.apply (cmp a (h.head nonemptyH)) = .lt := by
      refine lt_of_isLE_of_ne (across a memA _ (by rw [headFirst]; exact List.mem_cons_self)) ?_
      intro eq
      -- the last key of `g` equals `a`, and the boundary says it differs from the next head
      have lastEq := same g List.mem_cons_self _ (List.getLast_mem nonemptyG) a memA
      simp [TransCmp.eq_trans lastEq eq] at apart
    have fromHead : (o.apply (cmp (h.head nonemptyH) b)).isLE := by
      have mem : b ∈ (h :: L).flatten := List.mem_flatten.mpr ⟨k, memK, memB⟩
      rw [headFirst] at sortedTail mem
      exact isLE_of_mem_of_pairwise_cons sortedTail mem
    exact @TransCmp.lt_of_lt_of_isLE _ (fun a b => o.apply (cmp a b)) _ _ _ _ afterRun fromHead

/-- **In a sorted list the runs of equal keys are strictly ordered**: every key of a run
comes before every key of a later run. -/
theorem runs_pairwise_lt {o : Order} {l : List α}
    (sorted : l.Pairwise fun a b => (o.apply (cmp a b)).isLE) :
    (l.splitBy fun a b => cmp a b == .eq).Pairwise
      fun g h => ∀ a ∈ g, ∀ b ∈ h, o.apply (cmp a b) = .lt := by
  rw [← List.flatten_splitBy (fun a b => cmp a b == .eq) l] at sorted
  exact pairwise_lt_of_runs (fun _ run _ memA _ memB => eq_of_mem_run run memA memB)
    (List.isChain_getLast_head_splitBy (fun a b => cmp a b == .eq) l) sorted

/-- The runs of a stable sort, in reverse order, are the stable sort in the other order. -/
theorem IsStableSort.flip {o : Order} {input out : List α} (sort : IsStableSort cmp o input out) :
    IsStableSort cmp o.flip input (reverseRuns cmp out) where
  perm := by
    have runs := (List.reverse_perm (out.splitBy fun a b => cmp a b == .eq)).flatten
    rw [List.flatten_splitBy] at runs
    exact runs.trans sort.perm
  sorted := by
    rw [reverseRuns, List.pairwise_flatten, List.pairwise_reverse]
    refine ⟨fun g mem => List.pairwise_of_forall_mem_list fun a memA b memB => ?_, ?_⟩
    · -- within a run all keys are equal, so any order will do
      have same := eq_of_mem_run (List.mem_reverse.mp mem) memA memB
      simp [(o.flip.apply_eq_eq_iff _).mpr same]
    · -- a later run of `out` comes first: its keys lie strictly after those of the earlier run
      refine (runs_pairwise_lt sort.sorted).imp fun {g h} lt b memB a memA => ?_
      rw [Order.flip_apply_cmp, lt a memA b memB]
      rfl
  stable x := by
    rw [← sort.stable x]
    conv_rhs => rw [← List.flatten_splitBy (fun a b => cmp a b == .eq) out]
    rw [reverseRuns, List.filter_flatten, List.filter_flatten, List.map_reverse]
    apply flatten_reverse_of_pairwise_nil
    -- two different runs cannot both hold a value of the key of `x`
    refine List.pairwise_map.mpr ((runs_pairwise_lt sort.sorted).imp fun {g h} lt => ?_)
    by_contra both
    obtain ⟨someG, someH⟩ := not_or.mp both
    obtain ⟨a, memA⟩ := List.exists_mem_of_ne_nil _ someG
    obtain ⟨b, memB⟩ := List.exists_mem_of_ne_nil _ someH
    obtain ⟨memA, keyA⟩ := List.mem_filter.mp memA
    obtain ⟨memB, keyB⟩ := List.mem_filter.mp memB
    have same : cmp a b = .eq :=
      TransCmp.eq_trans (by simpa using keyA) (OrientedCmp.eq_symm (by simpa using keyB))
    have strict := lt a memA b memB
    rw [(o.apply_eq_eq_iff _).mpr same] at strict
    cases strict

/-- **Merge sort in the other order gives the runs of equal keys in reverse order.** -/
theorem mergeSort_flip (o : Order) (l : List α) :
    l.mergeSort (fun a b => o.flip.apply (cmp a b) != .gt) =
      reverseRuns cmp (l.mergeSort fun a b => o.apply (cmp a b) != .gt) :=
  (mergeSort_eq_iff_isStableSort o.flip l _).mpr (mergeSort_isStableSort o l).flip

end TotalPreorder

/-- When no two values share a key every run is a single value, and reversing the runs
reverses the list. -/
theorem reverseRuns_of_pairwise_ne {l : List α} (distinct : l.Pairwise fun a b => cmp a b ≠ .eq) :
    reverseRuns cmp l = l.reverse := by
  have flatSingletons (m : List α) : (m.map fun a => [a]).flatten = m := by
    rw [← List.flatMap_def, List.flatMap_singleton']
  have singletons : l.splitBy (fun a b => cmp a b == .eq) = l.map fun a => [a] := by
    rw [List.splitBy_eq_iff]
    refine ⟨(flatSingletons l).symm, by simp, fun g mem => ?_, ?_⟩
    · obtain ⟨a, -, rfl⟩ := List.mem_map.mp mem
      exact List.isChain_singleton a
    · rw [List.isChain_map]
      exact distinct.isChain.imp fun a b ne => ⟨List.cons_ne_nil _ _, List.cons_ne_nil _ _,
        by simpa using ne⟩
  rw [reverseRuns, singletons, ← List.map_reverse, flatSingletons]

namespace Query

/-- Running a query in the other order reverses the runs of equal keys of its result. -/
theorem run_flip (q : Query) (swaps : List Swap) :
    { q with order := q.order.flip }.run swaps = reverseRuns q.column.compare (q.run swaps) :=
  mergeSort_flip q.order _

/-- **The descending result of a query is its ascending result with the runs of equal keys
in reverse order**, each run in ledger order. When no two admitted swaps share a key it is
the exact reverse, and a click on the active column turns any result into its run reversal. -/
theorem run_desc_eq_reverseRuns (q : Query) (swaps : List Swap) :
    (q.withSort q.column .desc).run swaps =
        reverseRuns q.column.compare ((q.withSort q.column .asc).run swaps) ∧
      ((swaps.filter q.admits).Pairwise (fun a b => q.column.compare a b ≠ .eq) →
        (q.withSort q.column .desc).run swaps = ((q.withSort q.column .asc).run swaps).reverse) ∧
      (q.toggle q.column).run swaps = reverseRuns q.column.compare (q.run swaps) := by
  have desc : (q.withSort q.column .desc).run swaps =
      reverseRuns q.column.compare ((q.withSort q.column .asc).run swaps) :=
    run_flip (q.withSort q.column .asc) swaps
  refine ⟨desc, fun distinct => ?_, ?_⟩
  · rw [desc]
    apply reverseRuns_of_pairwise_ne
    -- the ascending result holds the admitted swaps, so its keys differ as well
    have sort : IsStableSort q.column.compare .asc (swaps.filter q.admits)
        ((q.withSort q.column .asc).run swaps) :=
      mergeSort_isStableSort .asc _
    have perm := sort.perm
    exact (perm.pairwise_iff fun ne eq => ne (OrientedCmp.eq_symm eq)).mpr distinct
  · -- a click on the active column flips the order and returns to the first page
    have toggled : q.toggle q.column = { q with order := q.order.flip, page := 1 } := by
      simp [toggle]
    rw [toggled]
    exact run_flip q swaps

/-- Three swaps with different ids, sorted by id: the descending result is the ascending
one reversed. -/
theorem run_desc_distinct_ids :
    let swaps : List Swap :=
      [⟨2, ⟨0, 0⟩, .solToUsdc, 1.0, 100.0, 10, 0.0, .confirmed, "a"⟩,
        ⟨3, ⟨86400, 0⟩, .usdcToSol, 2.0, 200.0, 10, 0.0, .pending, "b"⟩,
        ⟨1, ⟨0, 0⟩, .solToUsdc, 1.0, 100.0, 20, 0.0, .failed, "c"⟩]
    let q := Query.default.withSort .id .asc
    (swaps.filter q.admits).Pairwise (fun a b => q.column.compare a b ≠ .eq) ∧
      (q.withSort q.column .desc).run swaps = ((q.withSort q.column .asc).run swaps).reverse := by
  intro swaps q
  have distinct : (swaps.filter q.admits).Pairwise fun a b => q.column.compare a b ≠ .eq := by
    decide
  exact ⟨distinct, (run_desc_eq_reverseRuns q swaps).2.1 distinct⟩

end Query

end SwapDesk
