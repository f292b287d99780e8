import Mathlib
import SwapDesk.Ledger.Query

/-! # Clicking column headers

A click on the active column flips its order, on another column makes it active in descending
order, and either way returns to the first page. `Query.toggle_clicks` follows a whole sequence
of clicks: the order is decided by the final run of clicks on one column (`finalRun`).
-/

namespace SwapDesk

/-- The number of clicks on `c` at the end of a sequence of clicks. -/
def finalRun (cs : List Column) (c : Column) : Nat := (cs.reverse.takeWhile (· = c)).length

@[simp] theorem finalRun_append_self (cs : List Column) (c : Column) :
    finalRun (cs ++ [c]) c = finalRun cs c + 1 := by
  simp [finalRun]

@[simp] theorem finalRun_singleton (c : Column) : finalRun [c] c = 1 := by
  simp [finalRun]

theorem finalRun_append_other {c d : Column} (other : d ≠ c) (cs : List Column) :
    finalRun (cs ++ [d]) c = 0 := by
  simp [finalRun, other]

namespace Query

/-- A click changes the column, the order and the page of a query, and nothing else. -/
theorem toggle_eq (q : Query) (c : Column) :
    q.toggle c =
      { q with
        column := c, page := 1
        order := if q.column = c then q.order.flip else .desc } := by
  unfold toggle
  split
  next active =>
    cases q
    cases active
    simp
  next => rfl

/-- **A sequence of clicks.** The last column clicked is shown on page one, filters kept; each
click of the final run on it flips the order, whose start is the old order or descending. -/
theorem toggle_clicks (q : Query) (cs : List Column) (c : Column) :
    (cs ++ [c]).foldl toggle q =
      { q with
        column := c, page := 1
        order := if finalRun (cs ++ [c]) c = (cs ++ [c]).length ∧ q.column = c
          then Order.flip^[finalRun (cs ++ [c]) c] q.order
          else Order.flip^[finalRun (cs ++ [c]) c - 1] .desc } := by
  induction cs using List.reverseRecOn generalizing c with
  | nil =>
    -- a single click: the run is the whole sequence
    by_cases active : q.column = c <;> simp [toggle_eq, active]
  | append_singleton cs d ih =>
    rw [List.foldl_append, ih d, List.foldl_cons, List.foldl_nil, toggle_eq]
    by_cases same : d = c
    · -- the click continues the run on `c`: it flips the order the run had reached
      subst same
      simp only [finalRun_append_self, List.length_append, List.length_singleton, if_true,
        Nat.add_right_cancel_iff, Nat.add_sub_cancel]
      split <;> simp [Function.iterate_succ_apply']
    · -- the click starts a run of one on a column that was not active
      simp only [finalRun_append_self, finalRun_append_other same, same, if_false]
      simp

/-- Flipping descending on page three, then moving to the fee column. -/
example :
    let q := (default.withPage 3 25).toggle .date
    q.order = .asc ∧ q.page = 1 ∧
      (q.toggle .fee).column = .fee ∧ (q.toggle .fee).order = .desc := by
  decide

end Query

end SwapDesk
