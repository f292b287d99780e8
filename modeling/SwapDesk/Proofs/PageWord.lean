import Mathlib
import SwapDesk.Proofs.Page

/-! # Pages in machine words

From the clamp, a page's run ends at `ps` or below `2 · n` (`IsPage.runEnd_le`), and every other
index is at most `n`; so for at most `2^63` items no step of `paginateWord` overflows
(`paginateWord_eq_paginate`), and no larger bound holds (`paginateWord_overflow`).
-/

namespace SwapDesk

variable {α : Type}

/-! ## The word operations as numbers -/

namespace Word

theorem add_of_lt {a b : UInt64} (fits : a.toNat + b.toNat < 2 ^ 64) : add a b = some (a + b) :=
  if_pos fits

theorem add_of_le {a b : UInt64} (overflow : 2 ^ 64 ≤ a.toNat + b.toNat) : add a b = none :=
  if_neg (Nat.not_lt.mpr overflow)

theorem sub_of_le {a b : UInt64} (le : b ≤ a) : sub a b = some (a - b) :=
  if_pos le

theorem mul_of_lt {a b : UInt64} (fits : a.toNat * b.toNat < 2 ^ 64) : mul a b = some (a * b) :=
  if_pos fits

theorem toNat_add_of_lt {a b : UInt64} (fits : a.toNat + b.toNat < 2 ^ 64) :
    (a + b).toNat = a.toNat + b.toNat := by
  rw [UInt64.toNat_add, Nat.mod_eq_of_lt fits]

theorem toNat_mul_of_lt {a b : UInt64} (fits : a.toNat * b.toNat < 2 ^ 64) :
    (a * b).toNat = a.toNat * b.toNat := by
  rw [UInt64.toNat_mul, Nat.mod_eq_of_lt fits]

theorem toNat_max (a b : UInt64) : (max a b).toNat = max a.toNat b.toNat := by
  simp only [max, UInt64.le_iff_toNat_le]
  split <;> omega

theorem toNat_min (a b : UInt64) : (min a b).toNat = min a.toNat b.toNat := by
  simp only [min, UInt64.le_iff_toNat_le]
  split <;> omega

theorem toNat_max_one (a : UInt64) : (max a 1).toNat = max a.toNat 1 := by
  rw [toNat_max, UInt64.toNat_one]

/-- Rounding the quotient up is adding `b - 1` before dividing. -/
theorem toNat_divCeil (a b : UInt64) (pos : 0 < b.toNat) :
    (divCeil a b).toNat = (a.toNat + b.toNat - 1) / b.toNat := by
  have below : b.toNat - 1 < b.toNat := by omega
  have split := Nat.add_div (a := a.toNat) (b := b.toNat - 1) pos
  rw [Nat.div_eq_of_lt below, Nat.mod_eq_of_lt below] at split
  have regroup : a.toNat + b.toNat - 1 = a.toNat + (b.toNat - 1) := by omega
  rw [regroup, split]
  simp only [divCeil, gt_iff_lt, UInt64.lt_iff_toNat_lt, UInt64.toNat_mod, UInt64.toNat_zero]
  by_cases divides : a.toNat % b.toNat = 0
  · rw [if_neg (by omega), if_neg (by omega), UInt64.toNat_div]
    rfl
  · -- a remainder needs a divisor of at least 2, so the quotient is far below `2^64`
    have half : a.toNat / b.toNat < 2 ^ 63 := by
      have := a.toNat_lt
      rw [Nat.div_lt_iff_lt_mul pos]
      have : b.toNat ≠ 1 := fun one => divides (by rw [one, Nat.mod_one])
      omega
    have fits : (a / b).toNat + (1 : UInt64).toNat < 2 ^ 64 := by
      rw [UInt64.toNat_div, UInt64.toNat_one]
      omega
    rw [if_pos (by omega), if_pos (by omega), toNat_add_of_lt fits, UInt64.toNat_div,
      UInt64.toNat_one, Nat.add_zero]

theorem clamp_of_le (x : UInt64) {lo hi : UInt64} (ordered : lo ≤ hi) :
    ∃ c, clamp x lo hi = some c ∧ c.toNat = min (max x.toNat lo.toNat) hi.toNat := by
  refine ⟨_, if_pos ordered, ?_⟩
  rw [UInt64.le_iff_toNat_le] at ordered
  simp only [UInt64.lt_iff_toNat_lt]
  split_ifs <;> omega

theorem slice_of_le (items : List α) {start stop : UInt64} (ordered : start.toNat ≤ stop.toNat)
    (within : stop.toNat ≤ items.length) :
    slice items start stop = some ((items.drop start.toNat).take (stop.toNat - start.toNat)) :=
  if_pos ⟨UInt64.le_iff_toNat_le.mpr ordered, within⟩

end Word

theorem toNat_pageCountWord (total size : UInt64) :
    (pageCountWord total size).toNat = pageCount total.toNat size.toNat := by
  have pos : 0 < (max size 1).toNat := by
    rw [Word.toNat_max_one]
    omega
  rw [pageCountWord, Word.toNat_max_one, Word.toNat_divCeil _ _ pos, Word.toNat_max_one]
  rfl

/-! ## How far a page reaches -/

namespace IsPage

variable {items : List α} {page size : Nat} {pg : Page α}

/-- A page after the first starts inside the result. -/
theorem start_lt_of_ne_one (spec : IsPage items page size pg) (later : pg.info.currentPage ≠ 1) :
    (pg.info.currentPage - 1) * max size 1 < items.length := by
  have current := spec.current
  rcases spec.least with one | fewer
  · omega
  · have notLater :
        (pg.info.currentPage - 1) * max size 1 ≤ (pg.info.totalPages - 1) * max size 1 :=
      Nat.mul_le_mul_right _ (by omega)
    omega

theorem start_le_length (spec : IsPage items page size pg) :
    (pg.info.currentPage - 1) * max size 1 ≤ items.length := by
  by_cases first : pg.info.currentPage = 1
  · rw [first, Nat.sub_self, Nat.zero_mul]
    exact Nat.zero_le _
  · exact (spec.start_lt_of_ne_one first).le

/-- The run of `ps` items from a page's first index ends at `ps` on the first page, and
below `2 · n` on any later one, whose run of `ps` items starts inside the result. -/
theorem runEnd_le (spec : IsPage items page size pg) :
    (pg.info.currentPage - 1) * max size 1 + max size 1 ≤
      max (max size 1) (2 * items.length - 1) := by
  by_cases first : pg.info.currentPage = 1
  · rw [first, Nat.sub_self, Nat.zero_mul, Nat.zero_add]
    exact le_max_left _ _
  · have start := spec.start_lt_of_ne_one first
    have shorter : max size 1 ≤ (pg.info.currentPage - 1) * max size 1 :=
      Nat.le_mul_of_pos_left _ (by have := spec.one_le_currentPage; omega)
    omega

end IsPage

/-! ## The indices in words -/

section Indices

variable (items : List α) (page size : UInt64)

theorem toNat_length_toUInt64 {items : List α} (fits : items.length < 2 ^ 64) :
    items.length.toUInt64.toNat = items.length := by
  simp only [Nat.toUInt64_eq, UInt64.toNat_ofNat_of_lt' fits]

theorem toNat_pageCountWord_length (fits : items.length < 2 ^ 64) :
    (pageCountWord items.length.toUInt64 (max size 1)).toNat =
      (paginate items page.toNat size.toNat).info.totalPages := by
  rw [toNat_pageCountWord, toNat_length_toUInt64 fits, Word.toNat_max_one]
  rfl

/-- The clamp never fails, since there is always a page, and it picks the page that
`paginate` shows. -/
theorem clamp_pageCountWord (fits : items.length < 2 ^ 64) :
    ∃ current,
      Word.clamp page 1 (pageCountWord items.length.toUInt64 (max size 1)) = some current ∧
        current.toNat = (paginate items page.toNat size.toNat).info.currentPage := by
  have spec := paginate_isPage items page.toNat size.toNat
  have pagesNat := toNat_pageCountWord_length items page size fits
  have onePage : (1 : UInt64) ≤ pageCountWord items.length.toUInt64 (max size 1) := by
    rw [UInt64.le_iff_toNat_le, pagesNat, UInt64.toNat_one]
    exact spec.totalPages_pos
  obtain ⟨current, clamped, currentNat⟩ := Word.clamp_of_le page onePage
  rw [pagesNat, UInt64.toNat_one, ← spec.current] at currentNat
  exact ⟨current, clamped, currentNat⟩

/-- The first index `(c - 1) · ps` never overflows: the page shown is at least the first,
and the index is at most `n`. -/
theorem start_pageWord (fits : items.length < 2 ^ 64) {current : UInt64}
    (currentNat : current.toNat = (paginate items page.toNat size.toNat).info.currentPage) :
    Word.sub current 1 = some (current - 1) ∧
      Word.mul (current - 1) (max size 1) = some ((current - 1) * max size 1) ∧
      ((current - 1) * max size 1).toNat =
        ((paginate items page.toNat size.toNat).info.currentPage - 1) * max size.toNat 1 := by
  have spec := paginate_isPage items page.toNat size.toNat
  have one_le : (1 : UInt64) ≤ current := by
    rw [UInt64.le_iff_toNat_le, currentNat, UInt64.toNat_one]
    exact spec.one_le_currentPage
  have predNat :
      (current - 1).toNat = (paginate items page.toNat size.toNat).info.currentPage - 1 := by
    rw [UInt64.toNat_sub_of_le _ _ one_le, currentNat, UInt64.toNat_one]
  have startFits : (current - 1).toNat * (max size 1).toNat < 2 ^ 64 := by
    rw [predNat, Word.toNat_max_one]
    exact lt_of_le_of_lt spec.start_le_length fits
  refine ⟨Word.sub_of_le one_le, Word.mul_of_lt startFits, ?_⟩
  rw [Word.toNat_mul_of_lt startFits, predNat, Word.toNat_max_one]

/-- The slice from `min start n` to `min (start + ps) n` lies within the list, once
`start + ps` fits: its bounds are in order and end by `n`. -/
theorem slice_pageWord {start ps : UInt64} (fits : items.length < 2 ^ 64)
    (within : start.toNat ≤ items.length) (runFits : start.toNat + ps.toNat < 2 ^ 64) :
    Word.slice items (min start items.length.toUInt64) (min (start + ps) items.length.toUInt64) =
      some ((items.drop start.toNat).take
        (min (start.toNat + ps.toNat) items.length - start.toNat)) := by
  have firstNat : (min start items.length.toUInt64).toNat = start.toNat := by
    rw [Word.toNat_min, toNat_length_toUInt64 fits]
    exact min_eq_left within
  have stopNat : (min (start + ps) items.length.toUInt64).toNat =
      min (start.toNat + ps.toNat) items.length := by
    rw [Word.toNat_min, Word.toNat_add_of_lt runFits, toNat_length_toUInt64 fits]
  rw [Word.slice_of_le items (by rw [firstNat, stopNat]; omega) (by rw [stopNat]; omega),
    firstNat, stopNat]

end Indices

/-! ## The page in words -/

/-- **The words give the page, or overflow at the end of its run.** Below `2^64` items the words
panic exactly when `(c - 1) · ps + ps` does not fit, and otherwise give `paginate`'s page. -/
theorem paginateWord_eq (items : List α) (page size : UInt64) (fits : items.length < 2 ^ 64) :
    paginateWord items page size =
      if ((paginate items page.toNat size.toNat).info.currentPage - 1) * max size.toNat 1 +
          max size.toNat 1 < 2 ^ 64
      then some (paginate items page.toNat size.toNat) else none := by
  have spec := paginate_isPage items page.toNat size.toNat
  have totalNat := toNat_length_toUInt64 fits
  have pagesNat := toNat_pageCountWord_length items page size fits
  obtain ⟨current, clamped, currentNat⟩ := clamp_pageCountWord items page size fits
  obtain ⟨subtracted, multiplied, startNat⟩ := start_pageWord items page size fits currentNat
  generalize pgDef : paginate items page.toNat size.toNat = pg
    at spec pagesNat currentNat startNat ⊢
  simp only [paginateWord, clamped, subtracted, multiplied, Option.bind_eq_bind, Option.bind_some]
  by_cases runFits : (pg.info.currentPage - 1) * max size.toNat 1 + max size.toNat 1 < 2 ^ 64
  · -- the run fits, so the slice lies within the list and the range shown starts within it
    have runWord : ((current - 1) * max size 1).toNat + (max size 1).toNat < 2 ^ 64 := by
      rw [startNat, Word.toNat_max_one]
      exact runFits
    have prevIff : current > 1 ↔ pg.info.currentPage > 1 := by
      rw [gt_iff_lt, gt_iff_lt, UInt64.lt_iff_toNat_lt, UInt64.toNat_one, currentNat]
    have nextIff : current < pageCountWord items.length.toUInt64 (max size 1) ↔
        pg.info.currentPage < pg.info.totalPages := by
      rw [UInt64.lt_iff_toNat_lt, currentNat, pagesNat]
    have nonemptyIff : items.length.toUInt64 > 0 ↔ items.length > 0 := by
      rw [gt_iff_lt, gt_iff_lt, UInt64.lt_iff_toNat_lt, totalNat, UInt64.toNat_zero]
    rw [Word.add_of_lt runWord, if_pos runFits, Option.bind_some,
      slice_pageWord items fits (by rw [startNat]; exact spec.start_le_length) runWord]
    simp only [Option.bind_some, Word.toNat_min, Word.toNat_add_of_lt runWord, startNat,
      Word.toNat_max_one, currentNat, pagesNat, totalNat, prevIff, nextIff, nonemptyIff]
    by_cases nonempty : items.length > 0
    · have firstWord : ((current - 1) * max size 1).toNat + (1 : UInt64).toNat < 2 ^ 64 := by
        rw [startNat, UInt64.toNat_one]
        have := spec.start_lt_length nonempty
        omega
      rw [if_pos nonempty, Word.add_of_lt firstWord, Option.bind_some,
        Word.toNat_add_of_lt firstWord, startNat, UInt64.toNat_one]
      subst pgDef
      simp only [paginate, if_pos nonempty, Option.pure_def, Option.bind_some]
    · rw [if_neg nonempty]
      subst pgDef
      simp only [paginate, if_neg nonempty, Option.pure_def, Option.bind_some]
  · -- the run ends at `2^64` or later: the addition overflows
    rw [Word.add_of_le (by rw [startNat, Word.toNat_max_one]; omega), if_neg runFits]
    rfl

/-- **No index overflows on at most `2^63` items.** For every page number and size in words, no
step overflows and the slice stays within the list: the words give `paginate`'s page. -/
theorem paginateWord_eq_paginate (items : List α) (page size : UInt64)
    (fits : items.length ≤ 2 ^ 63) :
    paginateWord items page size = some (paginate items page.toNat size.toNat) := by
  have runEnd := (paginate_isPage items page.toNat size.toNat).runEnd_le
  have sizeFits := size.toNat_lt
  rw [paginateWord_eq items page size (by omega), if_pos (by omega)]

theorem paginateWord_eq_paginate_largest_words :
    (List.range 55).length ≤ 2 ^ 63 ∧
      paginateWord (List.range 55) 18446744073709551615 18446744073709551615 =
        some (paginate (List.range 55) (18446744073709551615 : UInt64).toNat
          (18446744073709551615 : UInt64).toNat) :=
  ⟨by simp, paginateWord_eq_paginate (List.range 55) 18446744073709551615 18446744073709551615
    (by simp)⟩

/-- **No longer list is safe.** On every list of more than `2^63` and fewer than `2^64`
items, page 2 of pages of `2^63` items panics: that page starts at `2^63`, and its run
of `2^63` items ends at `2^64`. -/
theorem paginateWord_overflow (items : List α) (long : 2 ^ 63 < items.length)
    (fits : items.length < 2 ^ 64) : paginateWord items 2 9223372036854775808 = none := by
  have wide : max 9223372036854775808 1 = 9223372036854775808 := Nat.max_eq_left (by norm_num)
  have pages : pageCount items.length 9223372036854775808 = 2 := by
    simp only [pageCount, wide]
    omega
  rw [paginateWord_eq items _ _ fits, if_neg]
  simp only [paginate, UInt64.toNat_ofNat, Nat.reducePow, Nat.reduceMod, wide, pages]
  omega

end SwapDesk
