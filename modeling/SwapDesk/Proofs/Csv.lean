import SwapDesk.Proofs.Page

/-! # Reading the CSV export back

CSV text read by RFC 4180 with `\n` line breaks, character by character (`Csv.read`). After its
header line the export reads as one record per swap, each the swap's fields exactly as written,
whatever quotes, commas or line breaks they hold (`swapsCsv_reads_back`).
-/

namespace SwapDesk

namespace Csv

/-- Where a reader stands within a record. -/
inductive Lexer where
  | fieldStart
  | bare
  | quoted
  /-- after a quote inside a quoted field: its end, or the first of a pair -/
  | quoteSeen
  deriving DecidableEq, Repr

/-- A reader of CSV text: where it stands, the field read so far, the fields of the record
read so far, and the records before it. -/
structure Reader where
  lexer : Lexer
  field : List Char
  record : List String
  records : List (List String)
  deriving DecidableEq, Repr

namespace Reader

def init : Reader := ⟨.fieldStart, [], [], []⟩

def endField (r : Reader) : Reader := ⟨.fieldStart, [], r.record ++ [String.ofList r.field], r.records⟩

def endRecord (r : Reader) : Reader :=
  ⟨.fieldStart, [], [], r.records ++ [r.record ++ [String.ofList r.field]]⟩

/-- Reads one character. A field is either bare, without quotes, commas or line breaks, or
quoted, with every quote inside written twice; commas separate fields and line breaks
records. -/
def step (r : Reader) (c : Char) : Option Reader :=
  match r.lexer with
  | .fieldStart =>
    if c = '"' then some { r with lexer := .quoted }
    else if c = ',' then some r.endField
    else if c = '\n' then some r.endRecord
    else some { r with lexer := .bare, field := r.field ++ [c] }
  | .bare =>
    if c = ',' then some r.endField
    else if c = '\n' then some r.endRecord
    else if c = '"' then none
    else some { r with field := r.field ++ [c] }
  | .quoted =>
    if c = '"' then some { r with lexer := .quoteSeen }
    else some { r with field := r.field ++ [c] }
  | .quoteSeen =>
    if c = '"' then some { r with lexer := .quoted, field := r.field ++ ['"'] }
    else if c = ',' then some r.endField
    else if c = '\n' then some r.endRecord
    else none

def run : Reader → List Char → Option Reader
  | r, [] => some r
  | r, c :: cs => (r.step c).bind fun r => run r cs

/-- The records once the text ends. An open quote is an error; a text that ends at the start
of a record, being empty or after a final line break, adds no record. -/
def finish (r : Reader) : Option (List (List String)) :=
  match r.lexer with
  | .quoted => none
  | .fieldStart => if r.record = [] then some r.records else some (r.records ++ [r.record ++ [""]])
  | .bare | .quoteSeen => some (r.records ++ [r.record ++ [String.ofList r.field]])

@[simp] theorem run_nil (r : Reader) : r.run [] = some r := rfl

@[simp] theorem step_quoteSeen_comma (field : List Char) (record : List String)
    (records : List (List String)) :
    (⟨.quoteSeen, field, record, records⟩ : Reader).step ',' =
      some ⟨.fieldStart, [], record ++ [String.ofList field], records⟩ := rfl

@[simp] theorem step_quoteSeen_newline (field : List Char) (record : List String)
    (records : List (List String)) :
    (⟨.quoteSeen, field, record, records⟩ : Reader).step '\n' =
      some ⟨.fieldStart, [], [], records ++ [record ++ [String.ofList field]]⟩ := rfl

@[simp] theorem run_cons (r : Reader) (c : Char) (cs : List Char) :
    r.run (c :: cs) = (r.step c).bind fun r => r.run cs := rfl

end Reader

def read (s : String) : Option (List (List String)) :=
  (Reader.init.run s.toList).bind Reader.finish

def escapeQuotes (cs : List Char) : List Char :=
  cs.flatMap fun c => if c = '"' then ['"', '"'] else [c]

@[simp] theorem escapeQuotes_nil : escapeQuotes [] = [] := rfl

theorem escapeQuotes_cons (c : Char) (cs : List Char) :
    escapeQuotes (c :: cs) = (if c = '"' then ['"', '"'] else [c]) ++ escapeQuotes cs := rfl

end Csv

theorem toList_csvQuote (s : String) :
    (csvQuote s).toList = '"' :: Csv.escapeQuotes s.toList ++ ['"'] := by
  simp [csvQuote, Csv.escapeQuotes, List.flatMap_map, apply_ite String.toList]

namespace Csv

open Reader

/-! ## Reading what the export writes -/

/-- Inside quotes the reader takes back every character of an escaped field, and stays
inside the quotes. -/
theorem run_escapeQuotes (field cs rest : List Char) (record : List String)
    (records : List (List String)) :
    (⟨.quoted, field, record, records⟩ : Reader).run (escapeQuotes cs ++ rest) =
      (⟨.quoted, field ++ cs, record, records⟩ : Reader).run rest := by
  induction cs generalizing field with
  | nil => simp
  | cons c cs ih =>
    rw [escapeQuotes_cons]
    -- a quote is written twice and read back as one
    by_cases quote : c = '"'
    · subst quote
      simp [step, ih]
    · simp [step, quote, ih]

/-- A quoted field read from the start of a field leaves the reader after its closing quote,
holding the field. -/
theorem run_csvQuote (s : String) (record : List String) (records : List (List String))
    (rest : List Char) :
    (⟨.fieldStart, [], record, records⟩ : Reader).run ((csvQuote s).toList ++ rest) =
      (⟨.quoteSeen, s.toList, record, records⟩ : Reader).run rest := by
  rw [toList_csvQuote]
  simp [step, run_escapeQuotes]

/-- A line of quoted fields leaves the reader after the closing quote of its last field,
with the fields before that one added to the record. -/
theorem run_quotedFields (fields : List String) (nonempty : fields ≠ []) (record : List String)
    (records : List (List String)) (rest : List Char) :
    (⟨.fieldStart, [], record, records⟩ : Reader).run
        ((",".intercalate (fields.map csvQuote)).toList ++ rest) =
      (⟨.quoteSeen, (fields.getLast nonempty).toList, record ++ fields.dropLast, records⟩ :
        Reader).run rest := by
  induction fields generalizing record with
  | nil => contradiction
  | cons f fs ih =>
    cases fs with
    | nil => simp [run_csvQuote]
    | cons g gs =>
      -- the first field and the comma after it, then the other fields by induction
      rw [List.map_cons, List.map_cons, String.intercalate_cons_cons, ← List.map_cons]
      simp only [String.toList_append, List.append_assoc]
      rw [run_csvQuote]
      simp only [show ",".toList = [','] from rfl, List.cons_append, List.nil_append, run_cons,
        step_quoteSeen_comma, Option.bind_some, String.ofList_toList]
      rw [ih (List.cons_ne_nil g gs)]
      simp

/-- Records of quoted fields, one line each, read back as those records after the ones
already read; the last line needs no line break. -/
theorem run_quotedRecords (rows : List (List String)) (nonempty : rows ≠ [])
    (filled : ∀ row ∈ rows, row ≠ []) (records : List (List String)) :
    ((⟨.fieldStart, [], [], records⟩ : Reader).run
        ("\n".intercalate (rows.map fun row => ",".intercalate (row.map csvQuote))).toList).bind
        finish =
      some (records ++ rows) := by
  induction rows generalizing records with
  | nil => contradiction
  | cons row rows ih =>
    have rowFilled := filled row List.mem_cons_self
    cases rows with
    | nil =>
      simp only [List.map_cons, List.map_nil, String.intercalate_singleton]
      rw [← List.append_nil (String.toList _), run_quotedFields row rowFilled]
      simp [finish, List.dropLast_concat_getLast rowFilled]
    | cons next rows =>
      -- the first line and the line break after it, then the other lines by induction
      have rest := ih (List.cons_ne_nil next rows) fun row mem => filled row (List.mem_cons_of_mem _ mem)
      simp only [List.map_cons] at rest
      rw [List.map_cons, List.map_cons, String.intercalate_cons_cons]
      simp only [String.toList_append, List.append_assoc]
      rw [run_quotedFields row rowFilled]
      simp only [show "\n".toList = ['\n'] from rfl, List.cons_append, List.nil_append, run_cons,
        step_quoteSeen_newline, Option.bind_some, String.ofList_toList, List.nil_append,
        List.dropLast_concat_getLast rowFilled]
      rw [rest]
      simp

/-- **Quoted records read back.** Lines of quoted fields, separated by line breaks, read as
exactly those records, whatever the fields hold. -/
theorem read_quotedRecords (rows : List (List String)) (nonempty : rows ≠ [])
    (filled : ∀ row ∈ rows, row ≠ []) :
    read ("\n".intercalate (rows.map fun row => ",".intercalate (row.map csvQuote))) =
      some rows :=
  run_quotedRecords rows nonempty filled []

end Csv

/-! ## The export of the ledger -/

/-- A text joined from pieces ends as its last piece does, when that one is not empty. -/
theorem getLast?_intercalate (sep : String) :
    ∀ (pieces : List String) (nonempty : pieces ≠ []) {c : Char},
      (pieces.getLast nonempty).toList.getLast? = some c →
        (sep.intercalate pieces).toList.getLast? = some c
  | [], nonempty, _, _ => absurd rfl nonempty
  | [piece], _, _, last => by simpa using last
  | piece :: next :: rest, _, c, last => by
    have tail := getLast?_intercalate sep (next :: rest) (List.cons_ne_nil next rest) last
    rw [String.intercalate_cons_cons, String.toList_append, List.getLast?_append, tail]
    rfl

theorem getLast?_csvQuote (s : String) : (csvQuote s).toList.getLast? = some '"' := by
  rw [toList_csvQuote, List.getLast?_append]
  rfl

theorem getLast?_csvLine (s : Swap) : s.csvLine.toList.getLast? = some '"' :=
  getLast?_intercalate "," _ (by simp [Swap.csvFields]) (by simp [Swap.csvFields, getLast?_csvQuote])

theorem swapsCsv_of_ne_nil {swaps : List Swap} (nonempty : swaps ≠ []) :
    swapsCsv swaps = csvHeader ++ "\n" ++ "\n".intercalate (swaps.map Swap.csvLine) := by
  cases swaps with
  | nil => contradiction
  | cons s rest => simp only [swapsCsv, List.map_cons, String.intercalate_cons_cons]

/-- The lines after the header read as the fields of the swaps, in order. -/
theorem read_csvLines {swaps : List Swap} (nonempty : swaps ≠ []) :
    Csv.read ("\n".intercalate (swaps.map Swap.csvLine)) = some (swaps.map Swap.csvFields) := by
  have lines := Csv.read_quotedRecords (swaps.map Swap.csvFields) (by simpa using nonempty)
    (by simp [Swap.csvFields])
  rw [show Swap.csvLine = fun s => ",".intercalate (s.csvFields.map csvQuote) from rfl]
  simpa [List.map_map, Function.comp_def] using lines

/-- The export ends with a quote, or with the header when it has no line. -/
theorem swapsCsv_not_newline (swaps : List Swap) : (swapsCsv swaps).toList.getLast? ≠ some '\n' := by
  by_cases empty : swaps = []
  · subst empty
    decide
  · have last : ("\n".intercalate (swaps.map Swap.csvLine)).toList.getLast? = some '"' :=
      getLast?_intercalate "\n" _ (by simpa using empty)
        (by simp only [List.getLast_map, getLast?_csvLine])
    rw [swapsCsv_of_ne_nil empty, String.toList_append, List.getLast?_append, last]
    decide

theorem Dashboard.matching_withPage (d : Dashboard) (q : Query) (page size : Nat) :
    d.matching (q.withPage page size) = d.matching q := rfl

/-- **The export reads back.** After the header and a line break, the export reads by RFC 4180
as one record per swap, in order, each the swap's fields exactly as written; a query's export
ignores its page and is the export of its pages one after another. -/
theorem swapsCsv_reads_back (swaps : List Swap) :
    (swaps = [] → swapsCsv swaps = csvHeader) ∧
      (swaps ≠ [] → ∃ body, swapsCsv swaps = csvHeader ++ "\n" ++ body ∧
        Csv.read body = some (swaps.map Swap.csvFields)) ∧
      (swapsCsv swaps).toList.getLast? ≠ some '\n' ∧
      ∀ (d : Dashboard) (q : Query) (page size : Nat),
        d.exportCsv (q.withPage page size) =
          swapsCsv ((List.range (pageCount (d.matching q).length size)).flatMap fun p =>
            (d.page (q.withPage (p + 1) size)).items) := by
  refine ⟨fun empty => by simp [empty, swapsCsv], fun nonempty => ?_, swapsCsv_not_newline swaps,
    fun d q page size => ?_⟩
  · exact ⟨_, swapsCsv_of_ne_nil nonempty, read_csvLines nonempty⟩
  · have pageOf : ∀ p, d.page (q.withPage p size) = paginate (d.matching q) p size := fun _ => rfl
    simp only [Dashboard.exportCsv, Dashboard.matching_withPage, pageOf]
    rw [flatMap_pages]

end SwapDesk
