import Mathlib
import SwapDesk.Text.Amount
import SwapDesk.Proofs.Civil

/-! # Amounts as text

`formatNumber_spec`: the grouped text of `x` is its sign, the whole part of `|x|` to `d` places
in comma-separated groups of three, and the rest of that text. The grouping tests each position
against the whole part's length from the right while walking from the left; `marks_last_three`
and `marks_add_three` turn that into groups.
-/

namespace SwapDesk

/-! ## Grouping -/

/-- The characters `cs`, standing at positions `k, k + 1, …` of a whole part of `n`
characters, each after the comma the grouping puts before it. -/
def marks (n k : Nat) (cs : List Char) : List Char :=
  (cs.zipIdx k).flatMap fun (c, i) => if i > 0 ∧ (n - i) % 3 = 0 then [',', c] else [c]

@[simp] theorem marks_nil (n k : Nat) : marks n k [] = [] := rfl

theorem marks_cons (n k : Nat) (c : Char) (cs : List Char) :
    marks n k (c :: cs) =
      (if k > 0 ∧ (n - k) % 3 = 0 then [',', c] else [c]) ++ marks n (k + 1) cs := by
  simp [marks]

theorem toList_groupThousands (s : String) :
    (groupThousands s).toList = marks s.toList.length 0 s.toList := by
  simp [groupThousands, marks]

theorem marks_append (n k : Nat) (a b : List Char) :
    marks n k (a ++ b) = marks n k a ++ marks n (k + a.length) b := by
  induction a generalizing k with
  | nil => simp
  | cons c a ih =>
    rw [List.cons_append, marks_cons, marks_cons, ih, List.append_assoc, List.length_cons]
    congr 3
    omega

/-- Three more characters at the end of the whole part change no mark before them. -/
theorem marks_add_three {n k : Nat} {cs : List Char} (within : k + cs.length ≤ n) :
    marks (n + 3) k cs = marks n k cs := by
  induction cs generalizing k with
  | nil => rfl
  | cons c cs ih =>
    rw [marks_cons, marks_cons, ih (by simp at within; omega)]
    have sameMark : (n + 3 - k) % 3 = (n - k) % 3 := by simp at within; omega
    rw [sameMark]

/-- The last three characters of a longer whole part form a group after a comma. -/
theorem marks_last_three {k : Nat} (positive : 0 < k) (a b c : Char) :
    marks (k + 3) k [a, b, c] = [',', a, b, c] := by
  simp only [marks_cons, marks_nil, List.append_nil]
  rw [if_pos ⟨positive, by omega⟩, if_neg (by omega), if_neg (by omega)]
  rfl

theorem marks_short {cs : List Char} (short : cs.length ≤ 3) : marks cs.length 0 cs = cs := by
  match cs, short with
  | [], _ => rfl
  | [a], _ => simp [marks_cons]
  | [a, b], _ => simp [marks_cons]
  | [a, b, c], _ => simp [marks_cons]

/-- **Groups of three.** The marks of a non-empty whole part are a first group of one to
three characters, then groups of exactly three, each after a comma; the groups joined are
the whole part. -/
theorem marks_groups : ∀ (cs : List Char), cs ≠ [] →
    ∃ (first : List Char) (rest : List (List Char)),
      marks cs.length 0 cs = first ++ rest.flatMap (',' :: ·) ∧
      first ++ rest.flatten = cs ∧ 1 ≤ first.length ∧ first.length ≤ 3 ∧
      ∀ g ∈ rest, g.length = 3
  | cs, nonempty => by
    by_cases short : cs.length ≤ 3
    · -- one group
      refine ⟨cs, [], by simp [marks_short short], by simp, ?_, short, by simp⟩
      exact List.length_pos_of_ne_nil nonempty
    · -- the last three characters form the last group; the rest is grouped as before
      obtain ⟨pre, last, rfl, lastThree⟩ : ∃ pre last, cs = pre ++ last ∧ last.length = 3 :=
        ⟨cs.take (cs.length - 3), cs.drop (cs.length - 3), (List.take_append_drop _ _).symm,
          by rw [List.length_drop]; omega⟩
      obtain ⟨a, b, c, rfl⟩ := List.length_eq_three.mp lastThree
      have lengths : (pre ++ [a, b, c]).length = pre.length + 3 := by simp
      have longer : 0 < pre.length := by omega
      have decreasing : pre.length < (pre ++ [a, b, c]).length := by simp
      obtain ⟨first, rest, marked, joined, firstLong, firstShort, threes⟩ :=
        marks_groups pre (List.ne_nil_of_length_pos longer)
      refine ⟨first, rest ++ [[a, b, c]], ?_, ?_, firstLong, firstShort, ?_⟩
      · have three : [a, b, c].length = 3 := rfl
        rw [List.length_append, three, marks_append, marks_add_three (by simp), marked,
          Nat.zero_add, marks_last_three longer]
        simp
      · simp [← joined]
      · intro g mem
        rcases List.mem_append.mp mem with earlier | lastGroup
        · exact threes g earlier
        · rw [List.mem_singleton.mp lastGroup]
          rfl
termination_by cs => cs.length

theorem filter_marks {n k : Nat} {cs : List Char} (noComma : ',' ∉ cs) :
    (marks n k cs).filter (· ≠ ',') = cs := by
  induction cs generalizing k with
  | nil => rfl
  | cons c cs ih =>
    have other : c ≠ ',' := fun same => noComma (same ▸ List.mem_cons_self)
    rw [marks_cons, List.filter_append, ih (fun mem => noComma (List.mem_cons_of_mem c mem))]
    split <;> simp [other]

/-! ## The text of a number to fixed places -/

theorem toList_fixed (b : Binary) (d : Nat) :
    (b.fixed d).toList = Nat.toDigits 10 (b.scaledRound d / Nat.pow 10 d) ++
      (if d = 0 then []
        else '.' :: (digitStringPadded (b.scaledRound d % Nat.pow 10 d) d).toList) := by
  unfold Binary.fixed
  split <;> simp [digitString]

theorem not_comma_of_isDigit {c : Char} (digit : c.isDigit = true) : c ≠ ',' := by
  rintro rfl
  exact absurd digit (by decide)

theorem comma_not_mem_toFixed (y : Float) (d : Nat) : ',' ∉ (y.toFixed d).toList := by
  unfold Float.toFixed
  split
  · decide
  · split <;> decide
  · rw [String.toList_append, toList_fixed]
    intro mem
    simp only [List.mem_append] at mem
    rcases mem with sign | digits | fraction
    · split at sign <;> simp_all
    · exact not_comma_of_isDigit (isDigit_of_mem_toDigits_ten digits) rfl
    · split at fraction
      · simp at fraction
      · rcases List.mem_cons.mp fraction with point | padded
        · exact absurd point (by decide)
        · exact not_comma_of_isDigit (isDigit_of_mem_padded padded) rfl

theorem toFixed_head (y : Float) (d : Nat) :
    ∃ c rest, (y.toFixed d).toList = c :: rest ∧ c ≠ '.' := by
  unfold Float.toFixed
  split
  · exact ⟨'N', ['a', 'N'], by simp, by decide⟩
  · split
    · exact ⟨'-', ['i', 'n', 'f'], by simp, by decide⟩
    · exact ⟨'i', ['n', 'f'], by simp, by decide⟩
  · obtain ⟨c, rest, first⟩ := List.exists_cons_of_ne_nil (Nat.toDigits_ne_nil (b := 10)
      (n := _ / Nat.pow 10 d))
    rw [String.toList_append, toList_fixed, first]
    split
    · exact ⟨'-', _, rfl, by decide⟩
    · have digit :=
        isDigit_of_mem_toDigits_ten (first ▸ List.mem_cons_self)
      refine ⟨c, _, rfl, fun point => ?_⟩
      rw [point] at digit
      exact absurd digit (by decide)

/-! ## Splitting at the point -/

theorem eq_of_dropWhile_ne {c q : Char} {cs after : List Char}
    (stop : cs.dropWhile (· ≠ c) = q :: after) : q = c := by
  have stops := List.head?_dropWhile_not (fun e => decide (e ≠ c)) cs
  rw [stop, List.head?_cons] at stops
  simpa using stops

/-- Splitting at the first `c` keeps the characters before it and, when there is a `c`, the
characters after it. -/
theorem splitFirst_eq (c : Char) (cs : List Char) :
    splitFirst c cs = (cs.takeWhile (· ≠ c), (cs.dropWhile (· ≠ c)).tail?) := by
  unfold splitFirst
  split
  next noPoint =>
    have whole := List.takeWhile_append_dropWhile (p := fun d => decide (d ≠ c)) (l := cs)
    rw [noPoint, List.append_nil] at whole
    rw [whole, noPoint]
    rfl
  next q after point =>
    rw [point]
    rfl

def wholeDigits (t : List Char) : List Char := t.takeWhile (· ≠ '.')

def pointDigits (t : List Char) : List Char := t.dropWhile (· ≠ '.')

/-- The sign in front of an amount `x` whose magnitude is written `t`: a minus when `x` is
negative and `t` has a character other than `0` and the point. -/
def amountSign (x : Float) (t : List Char) : String :=
  if x < 0.0 ∧ ∃ c ∈ t, c ≠ '0' ∧ c ≠ '.' then "-" else ""

/-- A number's grouped text: the sign, the whole part grouped, and the rest from the point
on. -/
theorem formatNumber_eq (x : Float) (d : Nat) :
    formatNumber x d = amountSign x (x.abs.toFixed d).toList ++
      groupThousands (String.ofList (wholeDigits (x.abs.toFixed d).toList)) ++
      String.ofList (pointDigits (x.abs.toFixed d).toList) := by
  unfold formatNumber amountSign wholeDigits pointDigits
  dsimp only
  rw [splitFirst_eq]
  -- after the whole part comes nothing, or the point and the rest
  rcases rest : (x.abs.toFixed d).toList.dropWhile (· ≠ '.') with _ | ⟨point, after⟩
  · split_ifs <;> simp_all
  · obtain rfl := eq_of_dropWhile_ne rest
    split_ifs <;> simp_all [String.append_assoc]

/-! ## The whole statement -/

/-- **Grouped amounts.** The sign is `-` exactly when `x < 0` and the digits are not all zero;
the whole part splits into a first group of one to three characters and groups of three after
commas; without its commas the text is the sign and the digits. -/
theorem formatNumber_spec (x : Float) (d : Nat) :
    formatNumber x d = amountSign x (x.abs.toFixed d).toList ++
        groupThousands (String.ofList (wholeDigits (x.abs.toFixed d).toList)) ++
        String.ofList (pointDigits (x.abs.toFixed d).toList) ∧
      (∃ (first : List Char) (rest : List (List Char)),
        (groupThousands (String.ofList (wholeDigits (x.abs.toFixed d).toList))).toList =
          first ++ rest.flatMap (',' :: ·) ∧
        first ++ rest.flatten = wholeDigits (x.abs.toFixed d).toList ∧
        1 ≤ first.length ∧ first.length ≤ 3 ∧ ∀ g ∈ rest, g.length = 3) ∧
      (formatNumber x d).toList.filter (· ≠ ',') =
        (amountSign x (x.abs.toFixed d).toList).toList ++ (x.abs.toFixed d).toList ∧
      formatUsd x = "$" ++ formatNumber x 2 := by
  set t := (x.abs.toFixed d).toList with text
  have noComma : ',' ∉ t := comma_not_mem_toFixed x.abs d
  have wholeNonempty : wholeDigits t ≠ [] := by
    obtain ⟨c, rest, first, notPoint⟩ := toFixed_head x.abs d
    simp [wholeDigits, text, first, notPoint]
  have grouped : (groupThousands (String.ofList (wholeDigits t))).toList =
      marks (wholeDigits t).length 0 (wholeDigits t) := by
    rw [toList_groupThousands, String.toList_ofList]
  refine ⟨formatNumber_eq x d, ?groups, ?commas, rfl⟩
  case groups =>
    rw [grouped]
    exact marks_groups (wholeDigits t) wholeNonempty
  case commas =>
    have signFree : ',' ∉ (amountSign x t).toList := by
      unfold amountSign
      split <;> simp
    have wholeFree : ',' ∉ wholeDigits t := fun mem =>
      noComma ((List.takeWhile_sublist _).mem mem)
    have restFree : ',' ∉ pointDigits t := fun mem =>
      noComma ((List.dropWhile_sublist _).mem mem)
    rw [formatNumber_eq, String.toList_append, String.toList_append, grouped,
      String.toList_ofList, List.filter_append, List.filter_append, filter_marks wholeFree,
      List.filter_eq_self.mpr (fun c mem => by simpa using (ne_of_mem_of_not_mem mem signFree)),
      List.filter_eq_self.mpr (fun c mem => by simpa using (ne_of_mem_of_not_mem mem restFree)),
      List.append_assoc, wholeDigits, pointDigits, List.takeWhile_append_dropWhile]

/-- A carry into a new group, a negative amount that rounds to zero, and two commas. -/
example : formatNumber 999.999 2 = "1,000.00" ∧ formatNumber (-0.001) 2 = "0.00" ∧
    formatNumber 1234567.891 2 = "1,234,567.89" := by
  decide +kernel

end SwapDesk
