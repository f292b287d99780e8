import Mathlib
import SwapDesk.Analytics.PnlRange
import SwapDesk.Proofs.QueryText

/-! # Ranges of the history as text

Of the many spellings `PnlRange.parse` accepts, `PnlRange.text` writes a canonical one: every
range that parses is `all` or `1 … 2^64 - 1` days, and its text parses back to it
(`PnlRange.canonical_text`).
-/

namespace SwapDesk

namespace PnlRange

/-- The ranges a text can name: all of the history, or a positive number of days that fits
in 64 bits. -/
def Valid : PnlRange → Prop
  | .all => True
  | .days n => 0 < n ∧ n < 2 ^ 64

instance : DecidablePred Valid := fun r =>
  match r with
  | .all => isTrue trivial
  | .days n => inferInstanceAs (Decidable (0 < n ∧ n < 2 ^ 64))

/-! ## Reading a number -/

theorem parseWord_lt {cs : List Char} {n : Nat} (read : parseWord cs = some n) : n < 2 ^ 64 := by
  unfold parseWord at read
  dsimp only at read
  split_ifs at read with bad fits
  cases read
  simpa using fits

/-- A non-empty run of digits reads as its value, if that fits in 64 bits. -/
theorem parseWord_digits {ds : List Char} (nonempty : ds ≠ [])
    (digits : ∀ c ∈ ds, c.isDigit = true) (fits : Nat.ofDigitChars 10 ds 0 < 2 ^ 64) :
    parseWord ds = some (Nat.ofDigitChars 10 ds 0) := by
  obtain ⟨c, rest, rfl⟩ := List.exists_cons_of_ne_nil nonempty
  unfold parseWord
  dsimp only
  have allDigits : (c :: rest).all Char.isDigit = true := List.all_eq_true.mpr digits
  split
  next plus =>
    -- a digit is not a sign
    obtain ⟨rfl, -⟩ := List.cons.inj plus
    exact absurd (digits '+' List.mem_cons_self) (by decide)
  next =>
    rw [if_neg (by simp [allDigits]), ← Nat.ofDigitChars_eq_foldl, if_pos (by simpa using fits)]

theorem parseWord_toDigits {n : Nat} (fits : n < 2 ^ 64) :
    parseWord (Nat.toDigits 10 n) = some n := by
  have read := parseWord_digits (Nat.toDigits_ne_nil (b := 10) (n := n))
    (fun _ mem => isDigit_of_mem_toDigits_ten mem)
    (by rwa [Nat.ofDigitChars_ten_toDigits])
  rwa [Nat.ofDigitChars_ten_toDigits] at read

/-! ## The text of a range -/

theorem toList_text_days (n : Nat) : (days n).text.toList = Nat.toDigits 10 n ++ ['d'] := by
  simp [text]

/-- No digit is a `d`, so stripping the trailing `d`s of a range's text leaves its digits. -/
theorem strip_text_days (n : Nat) :
    ((days n).text.toList.reverse.dropWhile (· = 'd')).reverse = Nat.toDigits 10 n := by
  have noD : ∀ c ∈ Nat.toDigits 10 n, c ≠ 'd' := by
    intro c mem same
    have digit := isDigit_of_mem_toDigits_ten mem
    simp [same] at digit
  rw [toList_text_days, List.reverse_append, List.reverse_singleton, List.singleton_append,
    List.dropWhile_cons_of_pos (by simp)]
  obtain ⟨c, rest, last⟩ := List.exists_cons_of_ne_nil
    (List.reverse_ne_nil_iff.mpr (Nat.toDigits_ne_nil (b := 10) (n := n)))
  rw [last, List.dropWhile_cons_of_neg, ← last, List.reverse_reverse]
  have lastDigit : c ∈ Nat.toDigits 10 n := List.mem_reverse.mp (last ▸ List.mem_cons_self)
  simpa using noD c lastDigit

theorem trimBlank_text (r : PnlRange) : trimBlank r.text = r.text := by
  apply trimBlank_of_not_blank
  cases r with
  | all =>
    rw [show all.text.toList = ['a', 'l', 'l'] by simp [text]]
    simp [isBlank]
  | days n =>
    rw [toList_text_days]
    intro c mem
    rcases List.mem_append.mp mem with digit | d
    · exact isBlank_of_isDigit (isDigit_of_mem_toDigits_ten digit)
    · rw [List.mem_singleton.mp d]
      decide

/-- The text of a number of days ends in `d`, so it is never `all`. -/
theorem asciiCaseEq_text_days (n : Nat) : asciiCaseEq (days n).text "all" = false := by
  rw [asciiCaseEq, decide_eq_false_iff_not, toList_text_days]
  intro same
  have lasts := congrArg List.getLast? same
  simp at lasts

/-- The text of every valid range reads back as that range. -/
theorem parse_text_of_valid {r : PnlRange} (valid : r.Valid) : parse r.text = .ok r := by
  cases r with
  | all => decide
  | days n =>
    obtain ⟨positive, fits⟩ := valid
    unfold parse
    dsimp only
    rw [trimBlank_text, asciiCaseEq_text_days, strip_text_days, parseWord_toDigits fits]
    simp [positive]

theorem valid_of_parse {s : String} {r : PnlRange} (parsed : parse s = .ok r) : r.Valid := by
  unfold parse at parsed
  dsimp only at parsed
  split at parsed
  next =>
    cases parsed
    trivial
  next =>
    split at parsed
    next n read =>
      split at parsed
      next positive =>
        cases parsed
        exact ⟨positive, parseWord_lt read⟩
      next => cases parsed
    next => cases parsed

/-! ## Slices -/

/-- A range of `n` days keeps the last `n` samples of the history, or all of them when there
are fewer, each sample as stored. -/
theorem slice_days (n : Nat) (h : List DaySample) :
    (days n).slice h <:+ h ∧ ((days n).slice h).length = min n h.length := by
  refine ⟨List.drop_suffix _ _, ?_⟩
  simp only [slice, List.length_drop]
  omega

/-- **Canonical text of a range.** Every text that parses names a valid range, the text of
every valid range parses back to it, and a range keeps a suffix of the history: all of it
for `all`, the last `min n |h|` samples, as stored, for `n` days. -/
theorem canonical_text :
    (∀ s r, parse s = .ok r → r.Valid ∧ parse r.text = .ok r) ∧
    (∀ r, r.Valid → parse r.text = .ok r) ∧
    (∀ h : List DaySample, all.slice h = h ∧
      ∀ n, (days n).slice h <:+ h ∧ ((days n).slice h).length = min n h.length) := by
  refine ⟨fun s r parsed => ?_, fun r valid => parse_text_of_valid valid,
    fun h => ⟨rfl, fun n => slice_days n h⟩⟩
  -- what parses is valid, and a valid range's text reads back
  have valid := valid_of_parse parsed
  exact ⟨valid, parse_text_of_valid valid⟩

/-- Blanks, the case of `all`, a sign, leading zeros and repeated `d`s are all accepted. -/
example :
    parse " ALL " = .ok .all ∧ parse "\t+0007dd " = .ok (.days 7) ∧ (days 7).text = "7d" := by
  decide +kernel

end PnlRange

end SwapDesk
