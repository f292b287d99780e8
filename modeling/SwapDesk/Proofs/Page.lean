import SwapDesk.Dashboard.Basic

/-! # Pages of a result

`IsPage` states what a page holds, the items from `(c - 1) · ps` below `min (c · ps) n`; from
it `paginate_spec` shows that the pages in turn give back the whole result, each item once.
-/

namespace SwapDesk

variable {α : Type}

/-! ## The number of pages -/

theorem pageCount_pos (n size : Nat) : 0 < pageCount n size := by
  simp only [pageCount]
  omega

theorem le_pageCount_mul (n size : Nat) : n ≤ pageCount n size * max size 1 := by
  have room := Nat.lt_div_mul_add (a := n + max size 1 - 1) (by omega : 0 < max size 1)
  simp only [pageCount]
  generalize (n + max size 1 - 1) / max size 1 = q at room ⊢
  by_cases none : q = 0
  · subst none
    omega
  · rw [Nat.max_eq_left (by omega)]
    omega

/-- One page fewer would not hold every item, unless there is only one page. -/
theorem pageCount_least (n size : Nat) :
    pageCount n size = 1 ∨ (pageCount n size - 1) * max size 1 < n := by
  have fits := Nat.div_mul_le_self (n + max size 1 - 1) (max size 1)
  simp only [pageCount]
  generalize (n + max size 1 - 1) / max size 1 = q at fits ⊢
  by_cases few : q ≤ 1
  · exact .inl (by omega)
  · have twoPages : 2 * max size 1 ≤ q * max size 1 := Nat.mul_le_mul_right _ (by omega)
    right
    rw [Nat.max_eq_left (by omega), Nat.sub_one_mul]
    omega

theorem pageCount_max_one (n size : Nat) : pageCount n (max size 1) = pageCount n size := by
  simp [pageCount]

theorem pred_mul_add {c : Nat} (ps : Nat) (pos : 1 ≤ c) : (c - 1) * ps + ps = c * ps := by
  rw [Nat.sub_one_mul, Nat.sub_add_cancel (Nat.le_mul_of_pos_left _ pos)]

/-! ## What a page holds -/

/-- What the page cut from `items` for a request of page `page` with `size` items a page
shows, where `ps = max size 1`, `n = items.length` and `c` is the page shown. -/
structure IsPage (items : List α) (page size : Nat) (pg : Page α) : Prop where
  /-- the pages hold every item, and one page fewer would not unless there is just one -/
  covers : items.length ≤ pg.info.totalPages * max size 1
  least : pg.info.totalPages = 1 ∨ (pg.info.totalPages - 1) * max size 1 < items.length
  /-- the request clamped to the pages that exist -/
  current : pg.info.currentPage = min (max page 1) pg.info.totalPages
  /-- the items at positions `(c - 1) · ps` up to `min (c · ps) n`, exclusive -/
  getElem?_eq : ∀ i, pg.items[i]? =
    if (pg.info.currentPage - 1) * max size 1 + i <
        min (pg.info.currentPage * max size 1) items.length
    then items[(pg.info.currentPage - 1) * max size 1 + i]? else none
  totalItems : pg.info.totalItems = items.length
  shown : pg.info.shown =
    if items = [] then none
    else some ((pg.info.currentPage - 1) * max size 1 + 1,
      min (pg.info.currentPage * max size 1) items.length)
  hasPrev : pg.info.hasPrev = decide (1 < pg.info.currentPage)
  hasNext : pg.info.hasNext = decide (pg.info.currentPage < pg.info.totalPages)

theorem getElem?_drop_take (l : List α) (start stop i : Nat) :
    ((l.drop start).take (stop - start))[i]? = if start + i < stop then l[start + i]? else none := by
  rw [List.getElem?_take, List.getElem?_drop]
  by_cases inside : start + i < stop
  · rw [if_pos (by omega), if_pos inside]
  · rw [if_neg (by omega), if_neg inside]

theorem paginate_isPage (items : List α) (page size : Nat) :
    IsPage items page size (paginate items page size) := by
  have pos := pageCount_pos items.length size
  have lastStop : (min (max page 1) (pageCount items.length size) - 1) * max size 1 + max size 1 =
      min (max page 1) (pageCount items.length size) * max size 1 :=
    pred_mul_add _ (by omega)
  refine ⟨?_, ?_, rfl, fun i => ?_, rfl, ?_, rfl, rfl⟩
  · simpa [paginate, pageCount_max_one] using le_pageCount_mul items.length size
  · simpa [paginate, pageCount_max_one] using pageCount_least items.length size
  · simp only [paginate, pageCount_max_one, lastStop]
    exact getElem?_drop_take items _ _ i
  · simp only [paginate, pageCount_max_one, lastStop, List.length_pos_iff]
    by_cases empty : items = []
    · simp [empty]
    · simp [empty]

/-! ## What follows for a reader of the pages -/

namespace IsPage

variable {items : List α} {page size : Nat} {pg : Page α}

theorem totalPages_pos (spec : IsPage items page size pg) : 0 < pg.info.totalPages := by
  rcases Nat.eq_zero_or_pos pg.info.totalPages with zero | pos
  · have covers := spec.covers
    have least := spec.least
    rw [zero, Nat.zero_mul] at covers
    rw [zero] at least
    simp at least
    omega
  · exact pos

theorem one_le_currentPage (spec : IsPage items page size pg) : 1 ≤ pg.info.currentPage := by
  have := spec.current
  have := spec.totalPages_pos
  omega

/-- The page is the slice of the result from `(c - 1) · ps` to `min (c · ps) n`. -/
theorem items_eq (spec : IsPage items page size pg) :
    pg.items = (items.drop ((pg.info.currentPage - 1) * max size 1)).take
      (min (pg.info.currentPage * max size 1) items.length -
        (pg.info.currentPage - 1) * max size 1) :=
  List.ext_getElem? fun i => by rw [spec.getElem?_eq, getElem?_drop_take]

theorem length_items (spec : IsPage items page size pg) :
    pg.items.length =
      min (pg.info.currentPage * max size 1) items.length -
        (pg.info.currentPage - 1) * max size 1 := by
  rw [spec.items_eq, List.length_take, List.length_drop]
  omega

/-- A page shown starts within the result, unless the result is empty. -/
theorem start_lt_length (spec : IsPage items page size pg) (nonempty : 0 < items.length) :
    (pg.info.currentPage - 1) * max size 1 < items.length := by
  rcases spec.least with one | fewer
  · have first : pg.info.currentPage = 1 := by
      have := spec.current
      have := spec.one_le_currentPage
      omega
    rw [first, Nat.sub_self, Nat.zero_mul]
    exact nonempty
  · have notLater : (pg.info.currentPage - 1) * max size 1 ≤ (pg.info.totalPages - 1) * max size 1 :=
      Nat.mul_le_mul_right _ (by have := spec.current; omega)
    omega

theorem items_ne_nil (spec : IsPage items page size pg) (nonempty : 0 < items.length) :
    pg.items ≠ [] := by
  have start := spec.start_lt_length nonempty
  have stop := pred_mul_add (max size 1) spec.one_le_currentPage
  rw [← List.length_pos_iff, spec.length_items]
  omega

theorem length_items_le (spec : IsPage items page size pg) : pg.items.length ≤ max size 1 := by
  have stop := pred_mul_add (max size 1) spec.one_le_currentPage
  rw [spec.length_items]
  omega

theorem shown_count (spec : IsPage items page size pg) {first last : Nat}
    (shown : pg.info.shown = some (first, last)) : last - first + 1 = pg.items.length := by
  have nonempty : items ≠ [] := by
    intro empty
    simp [spec.shown, empty] at shown
  have start := spec.start_lt_length (List.length_pos_iff.mpr nonempty)
  have stop := pred_mul_add (max size 1) spec.one_le_currentPage
  rw [spec.shown, if_neg nonempty, Option.some.injEq, Prod.mk.injEq] at shown
  rw [spec.length_items, ← shown.1, ← shown.2]
  omega

end IsPage

/-! ## The pages in turn give back the result -/

/-- Page `p + 1` of the pages that exist is the `p`-th run of `ps` items. -/
theorem paginate_items_succ (items : List α) (size : Nat) {p : Nat}
    (exists_ : p < pageCount items.length size) :
    (paginate items (p + 1) size).items = (items.drop (p * max size 1)).take (max size 1) := by
  have spec := paginate_isPage items (p + 1) size
  have current : (paginate items (p + 1) size).info.currentPage = p + 1 := by
    rw [spec.current]
    simp only [paginate, pageCount_max_one]
    omega
  rw [spec.items_eq, current, Nat.add_sub_cancel, List.take_eq_take_iff, List.length_drop,
    ← pred_mul_add (max size 1) (Nat.le_add_left 1 p), Nat.add_sub_cancel]
  omega

theorem flatMap_pages_take (items : List α) (size : Nat) :
    ∀ k, k ≤ pageCount items.length size →
      ((List.range k).flatMap fun p => (paginate items (p + 1) size).items) =
        items.take (k * max size 1)
  | 0, _ => by simp
  | k + 1, within => by
    -- page `k + 1` is the run of `ps` items right after the first `k` pages
    rw [List.range_succ, List.flatMap_append, List.flatMap_singleton,
      flatMap_pages_take items size k (by omega), paginate_items_succ items size (by omega),
      ← List.take_add, Nat.succ_mul]

/-- The pages `1 … pageCount` in turn give back the whole result. -/
theorem flatMap_pages (items : List α) (size : Nat) :
    ((List.range (pageCount items.length size)).flatMap fun p =>
      (paginate items (p + 1) size).items) = items := by
  rw [flatMap_pages_take items size _ (Nat.le_refl _)]
  exact List.take_of_length_le (le_pageCount_mul items.length size)

/-! ## Pagination -/

/-- **Pagination cuts the result into its pages.** Every page is the one `IsPage` describes, and
the pages `1 … pageCount` in turn are the whole result. -/
theorem paginate_spec (items : List α) (page size : Nat) :
    IsPage items page size (paginate items page size) ∧
      (0 < items.length → (paginate items page size).items ≠ []) ∧
      (paginate items page size).items.length ≤ max size 1 ∧
      (∀ first last, (paginate items page size).info.shown = some (first, last) →
        last - first + 1 = (paginate items page size).items.length) ∧
      ((List.range (pageCount items.length size)).flatMap fun p =>
        (paginate items (p + 1) size).items) = items ∧
      ∀ (d : Dashboard) (q : Query), d.page q = paginate (q.run d.ledger.swaps) q.page q.pageSize :=
  have spec := paginate_isPage items page size
  ⟨spec, spec.items_ne_nil, spec.length_items_le, fun _ _ shown => spec.shown_count shown,
    flatMap_pages items size, fun _ _ => rfl⟩

end SwapDesk
