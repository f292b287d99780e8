import SwapDesk.Ledger.Query

/-! # Stable sorting by a comparison

What a stable sort is, and that merge sort by a total preorder, read in either order, is the only
one (`mergeSort_eq_iff_isStableSort`).
-/

namespace SwapDesk

open Std

variable {α : Type} {cmp : α → α → Ordering}

theorem bne_gt_eq_isLE (x : Ordering) : (x != .gt) = x.isLE := by
  cases x <;> rfl

namespace Order

theorem apply_eq_eq_iff (o : Order) (x : Ordering) : o.apply x = .eq ↔ x = .eq := by
  cases o <;> cases x <;> decide

/-- Reading a total preorder in either order gives a total preorder: descending is the
opposite comparison. -/
instance transCmp_apply [TransCmp cmp] (o : Order) : TransCmp fun a b => o.apply (cmp a b) := by
  cases o with
  | asc => exact ‹TransCmp cmp›
  | desc =>
    have opposite : (fun a b => Order.desc.apply (cmp a b)) = fun a b => cmp b a := by
      funext a b
      exact OrientedCmp.eq_swap.symm
    rw [opposite]
    exact TransCmp.opposite

end Order

/-- `out` is a stable sort of `input` by `cmp` in order `o`: a permutation of `input` in which
every value may stand before every later one, and the values of one key (those that `cmp`
finds equal to some `x`) stand in their order in `input`. -/
structure IsStableSort (cmp : α → α → Ordering) (o : Order) (input out : List α) : Prop where
  perm : out.Perm input
  sorted : out.Pairwise fun a b => (o.apply (cmp a b)).isLE
  stable : ∀ x, out.filter (fun y => cmp y x == .eq) = input.filter (fun y => cmp y x == .eq)

section TotalPreorder

variable [TransCmp cmp]

/-- The head of a sorted list may stand before each of its values, itself included. -/
theorem isLE_of_mem_of_pairwise_cons {o : Order} {a y : α} {l : List α}
    (sorted : (a :: l).Pairwise fun a b => (o.apply (cmp a b)).isLE) (mem : y ∈ a :: l) :
    (o.apply (cmp a y)).isLE := by
  rcases List.mem_cons.mp mem with rfl | tail
  · exact @ReflCmp.isLE_rfl _ (fun a b => o.apply (cmp a b)) _ _
  · exact List.rel_of_pairwise_cons sorted tail

/-- Two sorted permutations of each other whose key classes agree are equal: the heads have
one key, the class of that key starts with both, and the tails are again such lists. -/
theorem eq_of_sorted_of_classes {o : Order} :
    ∀ {l₁ l₂ : List α}, l₁.Perm l₂ →
      l₁.Pairwise (fun a b => (o.apply (cmp a b)).isLE) →
      l₂.Pairwise (fun a b => (o.apply (cmp a b)).isLE) →
      (∀ x, l₁.filter (fun y => cmp y x == .eq) = l₂.filter (fun y => cmp y x == .eq)) →
      l₁ = l₂
  | [], _, perm, _, _, _ => perm.nil_eq
  | _ :: _, [], perm, _, _, _ => perm.eq_nil
  | a :: t, b :: u, perm, sorted₁, sorted₂, classes => by
    have before₁ : (o.apply (cmp a b)).isLE :=
      isLE_of_mem_of_pairwise_cons sorted₁ (perm.symm.subset List.mem_cons_self)
    have before₂ : (o.apply (cmp b a)).isLE :=
      isLE_of_mem_of_pairwise_cons sorted₂ (perm.subset List.mem_cons_self)
    have sameKey : cmp b a = .eq :=
      (o.apply_eq_eq_iff _).mp
        (@OrientedCmp.isLE_antisymm _ (fun a b => o.apply (cmp a b)) _ _ _ before₂ before₁)
    -- the class of the heads' key starts with `a` in one list and with `b` in the other
    have headClass := classes a
    simp only [List.filter_cons, ReflCmp.compare_self, sameKey, beq_self_eq_true,
      if_true, List.cons.injEq] at headClass
    obtain ⟨rfl, -⟩ := headClass
    congr 1
    refine eq_of_sorted_of_classes perm.cons_inv sorted₁.of_cons sorted₂.of_cons fun x => ?_
    have headClass := classes x
    by_cases inClass : (cmp a x == .eq) = true
    · simpa [List.filter_cons, inClass] using headClass
    · simpa [List.filter_cons, inClass] using headClass

/-- A list has at most one stable sort. -/
theorem IsStableSort.unique {o : Order} {input out₁ out₂ : List α}
    (sort₁ : IsStableSort cmp o input out₁) (sort₂ : IsStableSort cmp o input out₂) :
    out₁ = out₂ :=
  eq_of_sorted_of_classes (sort₁.perm.trans sort₂.perm.symm) sort₁.sorted sort₂.sorted
    fun x => (sort₁.stable x).trans (sort₂.stable x).symm

/-- The values of one key may stand in any order among themselves. -/
theorem pairwise_filter_sameKey (o : Order) (x : α) (l : List α) :
    (l.filter fun y => cmp y x == .eq).Pairwise fun a b => o.apply (cmp a b) != .gt := by
  apply List.pairwise_of_forall_mem_list
  intro a memA b memB
  have keyA : cmp a x = .eq := by simpa using (List.mem_filter.mp memA).2
  have keyB : cmp b x = .eq := by simpa using (List.mem_filter.mp memB).2
  have sameKey : cmp a b = .eq := TransCmp.eq_trans keyA (OrientedCmp.eq_symm keyB)
  simp [(o.apply_eq_eq_iff _).mpr sameKey]

/-- Merge sort by a total preorder read in an order is a stable sort. -/
theorem mergeSort_isStableSort (o : Order) (l : List α) :
    IsStableSort cmp o l (l.mergeSort fun a b => o.apply (cmp a b) != .gt) := by
  have trans : ∀ a b c : α, (o.apply (cmp a b) != .gt) = true →
      (o.apply (cmp b c) != .gt) = true → (o.apply (cmp a c) != .gt) = true := by
    simp only [bne_gt_eq_isLE]
    exact fun _ _ _ => @TransCmp.isLE_trans _ (fun a b => o.apply (cmp a b)) _ _ _ _
  have total : ∀ a b : α, ((o.apply (cmp a b) != .gt) || (o.apply (cmp b a) != .gt)) = true := by
    intro a b
    have swapped := @OrientedCmp.eq_swap _ (fun a b => o.apply (cmp a b)) _ a b
    cases h : o.apply (cmp b a) <;> simp_all
  refine ⟨List.mergeSort_perm l _, ?_, fun x => ?_⟩
  · refine (List.pairwise_mergeSort trans total l).imp fun {a b} before => ?_
    rwa [bne_gt_eq_isLE] at before
  · have survives : List.Sublist (l.filter fun y => cmp y x == .eq)
        (l.mergeSort fun a b => o.apply (cmp a b) != .gt) :=
      List.sublist_mergeSort trans total (pairwise_filter_sameKey o x l) List.filter_sublist
    have sublist : List.Sublist (l.filter fun y => cmp y x == .eq)
        ((l.mergeSort fun a b => o.apply (cmp a b) != .gt).filter fun y => cmp y x == .eq) := by
      simpa using survives.filter fun y => cmp y x == .eq
    exact (sublist.eq_of_length ((List.mergeSort_perm l _).filter _).length_eq.symm).symm

/-- Merge sort gives exactly the stable sort. -/
theorem mergeSort_eq_iff_isStableSort (o : Order) (l out : List α) :
    l.mergeSort (fun a b => o.apply (cmp a b) != .gt) = out ↔ IsStableSort cmp o l out :=
  ⟨fun sorted => sorted ▸ mergeSort_isStableSort o l,
    fun sort => (mergeSort_isStableSort o l).unique sort⟩

end TotalPreorder

end SwapDesk
