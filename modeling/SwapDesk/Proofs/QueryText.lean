import Mathlib
import SwapDesk.Ledger.QueryForm
import SwapDesk.Proofs.Civil

/-! # Queries written as text and read back

`Query.form` writes a query in its canonical texts, and reading them gives the query back for
every query with positive page numbers and dates of the range (`QueryForm.toQuery_form`).
-/

namespace SwapDesk

/-- The canonical text of a filter: `all`, or the name of its one value. -/
def Filter.text {α : Type} (name : α → String) : Filter α → String
  | .all => "all"
  | .only a => name a

def Query.form (q : Query) : QueryForm where
  filterType := some (q.direction.text Direction.wireName)
  filterStatus := some (q.status.text Status.name)
  dateFrom := q.dateFrom.map Date.text
  dateTo := q.dateTo.map Date.text
  sortField := some q.column.name
  sortDir := some q.order.name
  page := some q.page
  pageSize := some q.pageSize

/-! ## Canonical names -/

theorem Direction.parse_wireName (d : Direction) : Direction.parse d.wireName = .ok d := by
  cases d <;> decide

theorem Status.parse_name (s : Status) : Status.parse s.name = .ok s := by
  cases s <;> decide

theorem Column.parse_name (c : Column) : Column.parse c.name = .ok c := by
  cases c <;> decide

theorem Order.parse_name (o : Order) : Order.parse o.name = .ok o := by
  cases o <;> decide

/-- No canonical name of a direction or a status reads as `all`. -/
theorem Direction.wireName_not_all (d : Direction) :
    asciiCaseEq (trimBlank d.wireName) "all" = false := by
  cases d <;> decide

theorem Status.name_not_all (s : Status) : asciiCaseEq (trimBlank s.name) "all" = false := by
  cases s <;> decide

theorem Direction.wireName_nonblank (d : Direction) : (trimBlank d.wireName).isEmpty = false := by
  cases d <;> decide

theorem Status.name_nonblank (s : Status) : (trimBlank s.name).isEmpty = false := by
  cases s <;> decide

theorem Column.name_nonblank (c : Column) : (trimBlank c.name).isEmpty = false := by
  cases c <;> decide

theorem Order.name_nonblank (o : Order) : (trimBlank o.name).isEmpty = false := by
  cases o <;> decide

/-- A given name that is not blank is read, not replaced by the default. -/
theorem parseOr_name {α : Type} {parse : String → Except QueryError α} {name : α → String}
    (reads : ∀ a, parse (name a) = .ok a) (nonblank : ∀ a, (trimBlank (name a)).isEmpty = false)
    (default a : α) : parseOr parse default (some (name a)) = .ok a := by
  simp [parseOr, nonblank a, reads a]

theorem Filter.parse_text {α : Type} {parseOne : String → Except QueryError α}
    {name : α → String} (reads : ∀ a, parseOne (name a) = .ok a)
    (notAll : ∀ a, asciiCaseEq (trimBlank (name a)) "all" = false) (f : Filter α) :
    Filter.parse parseOne (f.text name) = .ok f := by
  cases f with
  | all =>
    have isAll : asciiCaseEq (trimBlank "all") "all" = true := by decide
    simp only [Filter.parse, Filter.text, isAll, if_true]
  | only a =>
    simp only [Filter.parse, Filter.text, notAll a, reads a]
    rfl

theorem Filter.text_nonblank {α : Type} {name : α → String}
    (nonblank : ∀ a, (trimBlank (name a)).isEmpty = false) (f : Filter α) :
    (trimBlank (f.text name)).isEmpty = false := by
  cases f with
  | all => show (trimBlank "all").isEmpty = false; decide
  | only a => exact nonblank a

/-! ## Date bounds -/

/-- The text of a date has no blank character, so trimming keeps it. -/
theorem Date.isBlank_of_mem_text {x : Date} {c : Char} (mem : c ∈ x.text.toList) :
    isBlank c = false := by
  have digitsOf (n w : Nat) (mem : c ∈ (digitStringPadded n w).toList) : isBlank c = false :=
    isBlank_of_isDigit (isDigit_of_mem_padded mem)
  rw [Date.text_toList] at mem
  simp only [List.mem_append, List.mem_cons] at mem
  rcases mem with year | rfl | month | rfl | day
  · unfold Date.yearText at year
    split_ifs at year
    · exact digitsOf _ _ year
    all_goals
      simp only [String.toList_append, List.mem_append] at year
      rcases year with sign | digits
      · simp only [show ("-" : String).toList = ['-'] from rfl,
          show ("+" : String).toList = ['+'] from rfl, List.mem_singleton] at sign
        subst sign
        decide
      · exact digitsOf _ _ digits
  · decide
  · exact digitsOf _ _ month
  · decide
  · exact digitsOf _ _ day

theorem trimBlank_of_not_blank {s : String} (solid : ∀ c ∈ s.toList, isBlank c = false) :
    trimBlank s = s := by
  have keep (l : List Char) (solid : ∀ c ∈ l, isBlank c = false) : dropBlank l = l := by
    cases l with
    | nil => rfl
    | cons c cs => exact List.dropWhile_cons_of_neg (by simp [solid c (by simp)])
  unfold trimBlank
  rw [keep _ solid, keep _ (by simpa using solid), List.reverse_reverse, String.ofList_toList]

/-- A date bound written as text reads back, for any date of the range. -/
theorem parseDateBound_text {bound : Option Date}
    (inRange : ∀ d ∈ bound, Date.min ≤ d ∧ d ≤ Date.max) :
    parseDateBound (bound.map Date.text) = .ok bound := by
  cases bound with
  | none => rfl
  | some d =>
    obtain ⟨lower, upper⟩ := inRange d rfl
    have trimmed : trimBlank d.text = d.text :=
      trimBlank_of_not_blank fun _ => Date.isBlank_of_mem_text
    have nonempty : d.text.isEmpty = false := by
      rw [String.isEmpty_eq_false_iff, ne_eq, ← String.toList_inj, Date.text_toList]
      simp
    simp [parseDateBound, trimmed, nonempty, Date.parse_text lower upper]

/-! ## The whole query -/

/-- **A query reads back from its canonical texts**, for positive page numbers and dates of the
calendar's range, signed years included. -/
theorem QueryForm.toQuery_form (q : Query) (page : 1 ≤ q.page) (pageSize : 1 ≤ q.pageSize)
    (dateFrom : ∀ d ∈ q.dateFrom, Date.min ≤ d ∧ d ≤ Date.max)
    (dateTo : ∀ d ∈ q.dateTo, Date.min ≤ d ∧ d ≤ Date.max) :
    q.form.toQuery = .ok q := by
  have direction := parseOr_name
    (Filter.parse_text Direction.parse_wireName Direction.wireName_not_all)
    (Filter.text_nonblank Direction.wireName_nonblank) .all q.direction
  have status := parseOr_name (Filter.parse_text Status.parse_name Status.name_not_all)
    (Filter.text_nonblank Status.name_nonblank) .all q.status
  have column := parseOr_name Column.parse_name Column.name_nonblank Query.default.column q.column
  have order := parseOr_name Order.parse_name Order.name_nonblank Query.default.order q.order
  unfold QueryForm.toQuery Query.form
  simp only [Option.getD_some, if_neg (show q.page ≠ 0 by omega),
    if_neg (show q.pageSize ≠ 0 by omega), direction, status, column, order,
    parseDateBound_text dateFrom, parseDateBound_text dateTo, except_ok_bind]
  rfl

/-- A query from year `-1` to year `10000`, both written with a sign, reads back. -/
theorem QueryForm.toQuery_form_signed_years :
    ((Query.default.withSort .amountIn .asc).withDates (some ⟨Date.dayOfCivil (-1) 1 1⟩)
        (some ⟨Date.dayOfCivil 10000 12 31⟩)).form.toQuery =
      .ok ((Query.default.withSort .amountIn .asc).withDates (some ⟨Date.dayOfCivil (-1) 1 1⟩)
        (some ⟨Date.dayOfCivil 10000 12 31⟩)) :=
  QueryForm.toQuery_form _ (by decide) (by decide) (by decide) (by decide)

end SwapDesk
