import Manuscript.Markdown.Convert
import Manuscript.Proofs.Outcome
import Manuscript.Proofs.Text.Hanging

/-!
# Reading tables back

The cells of a table hold any texts of one line: with bars, with backslashes before bars or at the
end, with spaces around them. Yet the lines of the table tell where each cell begins and ends:

* `readTable`: the rows of a table, cell by cell, and the alignments of its columns;
* `cutBars_guarded`: a line is cut at the bars between cells and at no bar of a cell;
* `readRow_writtenRow`: what is read of a row is the texts of its cells;
* `columns_eq`: the alignments of the columns, however many the table has;
* `WritesTables`: the steps that write tables as generic Markdown does, whatever they make of the
  nodes in the cells;
* `table_reads_back`: what is read of a table is its cells and its alignments.
-/

namespace Manuscript.Markdown

open Text

/-! ## A reader of tables -/

/-- Cuts a line at the bars that no backslash stands directly before. The flag says whether one
stands before the line. -/
def cutBars (escaped : Bool) : List Char → List (List Char)
  | [] => [[]]
  | c :: cs =>
    if c = '|' ∧ escaped = false then [] :: cutBars false cs
    else (cutBars (c == '\\') cs).modifyHead (c :: ·)

/-- Takes away the backslashes before bars. -/
def unescapeBars : List Char → List Char
  | [] => []
  | '\\' :: '|' :: cs => '|' :: unescapeBars cs
  | c :: cs => c :: unescapeBars cs

/-- A field without the space at each of its ends. -/
def inner? : List Char → Option (List Char)
  | ' ' :: cs => if cs.getLast? = some ' ' then some cs.dropLast else none
  | _ => none

/-- The text of a cell from the field that holds it. -/
def readField (field : List Char) : Option String :=
  (inner? field).map fun cs => String.ofList (unescapeBars cs)

/-- The cells of a line: its fields, but for the empty ones at both ends. -/
def readRow (line : List Char) : Option (List String) :=
  match cutBars false line with
  | [] :: fields =>
    if fields.getLast? = some [] then fields.dropLast.mapM readField else none
  | _ => none

/-- The alignment that the dashes under a column show. -/
def readDashes (dashes : String) : Option (Option Alignment) :=
  if dashes = "---" then some none
  else if dashes = ":---" then some (some .left)
  else if dashes = ":---:" then some (some .center)
  else if dashes = "---:" then some (some .right)
  else none

/-- The alignments that a line of dashes shows, one for each column. -/
def readSeparator (line : List Char) : Option (List (Option Alignment)) :=
  (readRow line).bind fun fields => fields.mapM readDashes

/-- The rows of a table and the alignments of its columns, which the second line shows. -/
def readTable (text : String) : Option (List (List String) × List (Option Alignment)) :=
  match (Lines.ofChars text.toList).toList with
  | first :: separator :: rest => do
    let rows ← (first :: rest).mapM readRow
    let alignments ← readSeparator separator
    return (rows, alignments)
  | _ => none

/-! ## Bars within cells -/

/-- A text with a backslash before every bar. -/
def guarded (cs : List Char) : List Char :=
  cs.flatMap fun c => if ['|'].contains c then ['\\', c] else [c]

theorem toList_escapeOnly (s : String) : (escapeOnly ['|'] s).toList = guarded s.toList :=
  String.toList_ofList

theorem guarded_bar (cs : List Char) : guarded ('|' :: cs) = '\\' :: '|' :: guarded cs := rfl

theorem guarded_cons {c : Char} (other : c ≠ '|') (cs : List Char) :
    guarded (c :: cs) = c :: guarded cs := by
  rw [guarded, List.flatMap_cons, if_neg (by simpa using other)]
  rfl

theorem guarded_of_free {cs : List Char} (free : '|' ∉ cs) : guarded cs = cs := by
  induction cs with
  | nil => rfl
  | cons c cs ih =>
    have other : c ≠ '|' := fun bar => free (bar ▸ List.mem_cons_self)
    rw [guarded_cons other, ih fun among => free (List.mem_cons_of_mem c among)]

/-- A guarded text does not begin with a bar. -/
theorem head?_guarded_ne (cs : List Char) : (guarded cs).head? ≠ some '|' := by
  cases cs with
  | nil => simp [guarded]
  | cons c cs =>
    by_cases bar : c = '|'
    · subst bar
      simp [guarded_bar]
    · simpa [guarded_cons bar] using bar

theorem unescapeBars_cons {c : Char} {cs : List Char} (free : cs.head? ≠ some '|') :
    unescapeBars (c :: cs) = c :: unescapeBars cs := by
  rw [unescapeBars]
  rintro rest rfl rfl
  exact free rfl

theorem unescapeBars_guarded (cs : List Char) : unescapeBars (guarded cs) = cs := by
  induction cs with
  | nil => rfl
  | cons c cs ih =>
    by_cases bar : c = '|'
    · subst bar
      rw [guarded_bar, unescapeBars, ih]
    · rw [guarded_cons bar, unescapeBars_cons (head?_guarded_ne cs), ih]

/-- A space before a bar parts the bar from whatever the text ends in. -/
theorem cutBars_guarded (escaped : Bool) (cs rest : List Char) :
    cutBars escaped (guarded cs ++ ' ' :: '|' :: rest) =
      (guarded cs ++ [' ']) :: cutBars false rest := by
  -- The flag is free because any backslash of the text sets it for what follows.
  induction cs generalizing escaped with
  | nil => simp [guarded, cutBars]
  | cons c cs ih =>
    by_cases bar : c = '|'
    · subst bar
      simp [guarded_bar, cutBars, ih]
    · simp [guarded_cons bar, cutBars, bar, ih]

/-! ## Rows -/

/-- A cell with the bar behind it. -/
def field (cell : List Char) : List Char := ' ' :: (cell ++ [' ', '|'])

/-- A row with cells is a bar and then its cells, each with a bar behind it. -/
theorem toList_row {cells : List String} (some : cells ≠ []) :
    (row cells).toList = '|' :: cells.flatMap fun cell => field cell.toList := by
  have joined : ∀ cells : List String, cells ≠ [] →
      ' ' :: ([' ', '|', ' '].intercalate (cells.map String.toList) ++ [' ', '|']) =
        cells.flatMap fun cell => field cell.toList := by
    intro cells some
    induction cells with
    | nil => exact absurd rfl some
    | cons cell cells ih =>
      cases cells with
      | nil => simp [field]
      | cons next later =>
        have rest := ih (List.cons_ne_nil next later)
        rw [List.flatMap_cons, ← rest]
        simp [field]
  rw [← joined cells some, row, String.toList_append, String.toList_append,
    String.toList_intercalate]
  rfl

/-- A row without cells is written like one with an empty cell. -/
theorem row_nil : row [] = row [""] := rfl

theorem cutBars_fields (cells : List (List Char)) :
    cutBars false (cells.flatMap fun cell => field (guarded cell)) =
      (cells.map fun cell => ' ' :: (guarded cell ++ [' '])) ++ [[]] := by
  induction cells with
  | nil => rfl
  | cons cell cells ih =>
    have first := cutBars_guarded false (' ' :: cell)
      (cells.flatMap fun cell => field (guarded cell))
    rw [guarded_cons (by decide), ih] at first
    rw [List.flatMap_cons, field, List.cons_append, List.append_assoc]
    exact first

theorem inner?_spaced (cs : List Char) : inner? (' ' :: (cs ++ [' '])) = some cs := by
  simp [inner?]

theorem readField_spaced (text : String) :
    readField (' ' :: (guarded text.toList ++ [' '])) = some text := by
  rw [readField, inner?_spaced, Option.map_some, unescapeBars_guarded, String.ofList_toList]

theorem mapM_readField_spaced (texts : List String) :
    (texts.map fun text => ' ' :: (guarded text.toList ++ [' '])).mapM readField = some texts := by
  rw [mapM_map_eq_some readField_spaced, List.map_id']

/-- The texts of the cells as they are read: a row without cells looks like one empty cell. -/
def asRead (texts : List String) : List String := if texts = [] then [""] else texts

/-- A row whose cells hold these texts. -/
def writtenRow (texts : List String) : String := row (texts.map (escapeOnly ['|']))

theorem cutBars_writtenRow {texts : List String} (present : texts ≠ []) :
    cutBars false (writtenRow texts).toList =
      [] :: ((texts.map fun text => ' ' :: (guarded text.toList ++ [' '])) ++ [[]]) := by
  have cells : (writtenRow texts).toList =
      '|' :: (texts.map String.toList).flatMap fun cell => field (guarded cell) := by
    rw [writtenRow, toList_row (by simpa using present), List.flatMap_map, List.flatMap_map]
    simp only [toList_escapeOnly]
  rw [cells, cutBars, if_pos ⟨rfl, rfl⟩, cutBars_fields, List.map_map]
  rfl

/-- A row is read as the texts of its cells. -/
theorem readRow_writtenRow (texts : List String) :
    readRow (writtenRow texts).toList = some (asRead texts) := by
  have visible : ∀ texts, texts ≠ [] → readRow (writtenRow texts).toList = some texts := by
    intro texts present
    simp only [readRow, cutBars_writtenRow present, List.getLast?_concat, List.dropLast_concat,
      if_pos, mapM_readField_spaced]
  by_cases none : texts = []
  · rw [asRead, if_pos none, none, writtenRow, List.map_nil, row_nil]
    exact visible [""] (List.cons_ne_nil _ _)
  · rw [asRead, if_neg none]
    exact visible texts none

/-! ## Columns -/

/-- Columns beyond the alignments that are given are plain. -/
theorem columns_eq (count : Nat) (alignments : List (Option Alignment)) :
    columns count alignments = (List.range count).map fun i => alignments[i]?.join := by
  refine List.ext_getElem (by simp [columns]; omega) fun i place _ => ?_
  rw [List.getElem_map, List.getElem_range]
  simp only [columns, List.getElem_take]
  by_cases given : i < alignments.length
  · rw [List.getElem_append_left given, List.getElem?_eq_getElem given]
    rfl
  · rw [List.getElem_append_right (by omega), List.getElem?_eq_none (by omega)]
    exact List.getElem_replicate _

theorem length_columns (count : Nat) (alignments : List (Option Alignment)) :
    (columns count alignments).length = count := by
  rw [columns_eq, List.length_map, List.length_range]

/-- The dashes of an alignment that has a name are read as this alignment. -/
theorem exists_dashes {alignment : Option Alignment}
    (known : ∀ word, alignment ≠ some (.unknown word)) :
    ∃ text, dashes alignment = .ok text ∧ '|' ∉ text.toList ∧ '\n' ∉ text.toList ∧
      readDashes text = some alignment := by
  match alignment with
  | none => exact ⟨"---", rfl, by decide, by decide, rfl⟩
  | some .left => exact ⟨":---", rfl, by decide, by decide, by decide⟩
  | some .center => exact ⟨":---:", rfl, by decide, by decide, by decide⟩
  | some .right => exact ⟨"---:", rfl, by decide, by decide, by decide⟩
  | some (.unknown word) => exact absurd rfl (known word)

theorem exists_separators {alignments : List (Option Alignment)}
    (known : ∀ word, some (.unknown word) ∉ alignments) :
    ∃ separators, alignments.mapM dashes = .ok separators ∧
      (∀ text ∈ separators, '|' ∉ text.toList ∧ '\n' ∉ text.toList) ∧
      separators.mapM readDashes = some alignments := by
  induction alignments with
  | nil => exact ⟨[], rfl, by simp, rfl⟩
  | cons alignment alignments ih =>
    have first : ∀ word, alignment ≠ some (.unknown word) :=
      fun word same => known word (same ▸ List.mem_cons_self)
    obtain ⟨text, written, bar, newline, read⟩ := exists_dashes first
    obtain ⟨texts, written', plain, read'⟩ :=
      ih fun word among => known word (List.mem_cons_of_mem _ among)
    refine ⟨text :: texts, ?_, ?_, ?_⟩
    · rw [List.mapM_cons, written, written']
      rfl
    · exact List.forall_mem_cons.2 ⟨⟨bar, newline⟩, plain⟩
    · rw [List.mapM_cons, read, read']
      rfl

/-- A line of dashes is read as it is, since no bar is in it. -/
theorem readRow_of_free {cells : List String} (present : cells ≠ [])
    (free : ∀ cell ∈ cells, '|' ∉ cell.toList) : readRow (row cells).toList = some cells := by
  have each : ∀ cell ∈ cells, escapeOnly ['|'] cell = id cell := by
    intro cell hc
    rw [← String.toList_inj, toList_escapeOnly, guarded_of_free (free cell hc), id]
  have same : cells.map (escapeOnly ['|']) = cells :=
    (List.map_congr_left each).trans (List.map_id cells)
  have read := readRow_writtenRow cells
  rwa [writtenRow, same, asRead, if_neg present] at read

/-! ## Tables -/

/-- A text that is read as a table of these rows, with these alignments for as many columns as the
first row has cells. -/
structure Tabulates (texts : List (List String)) (alignments : List (Option Alignment))
    (text : String) : Prop where
  /-- There is a line for each row, and one for the alignments. -/
  count : (Lines.ofChars text.toList).toList.length = texts.length + 1
  read : readTable text = some (texts.map asRead,
    (List.range (max 1 (texts.headD []).length)).map fun i => alignments[i]?.join)

/-- Lines that are joined can be told from each other. -/
theorem lines_intercalate {lines : List String} (some : lines ≠ [])
    (whole : ∀ line ∈ lines, '\n' ∉ line.toList) :
    (Lines.ofChars ("\n".intercalate lines).toList).toList = lines.map String.toList := by
  have each : ∀ line ∈ lines, (Lines.ofChars line.toList).toList = [line.toList] := by
    intro line hl
    rw [Lines.ofChars_of_not_mem (whole line hl)]
    rfl
  have chunks : lines.map String.toList ≠ [] := by simpa using some
  rw [String.toList_intercalate]
  refine (toList_ofChars_intercalate_newline chunks).trans ?_
  rw [List.flatMap_map, List.flatMap_map, List.flatMap_congr each]
  exact List.map_eq_flatMap.symm

theorem newline_not_mem_row {cells : List String} (whole : ∀ cell ∈ cells, '\n' ∉ cell.toList) :
    '\n' ∉ (row cells).toList := by
  by_cases none : cells = []
  · subst none
    decide
  · rw [toList_row none]
    simpa [field] using whole

theorem newline_not_mem_escapeOnly {s : String} (whole : '\n' ∉ s.toList) :
    '\n' ∉ (escapeOnly ['|'] s).toList := by
  have kept : ∀ c, '\n' ∈ (if ['|'].contains c then ['\\', c] else [c]) → c = '\n' := by
    intro c newline
    split at newline
    · simpa [eq_comm] using newline
    · exact (List.mem_singleton.1 newline).symm
  rw [toList_escapeOnly, guarded]
  intro among
  obtain ⟨c, hc, newline⟩ := List.mem_flatMap.1 among
  exact whole (kept c newline ▸ hc)

theorem mapM_readRow (rows : List (List String)) :
    (rows.map fun texts => (writtenRow texts).toList).mapM readRow = some (rows.map asRead) :=
  mapM_map_eq_some readRow_writtenRow rows

theorem grid_eq_ok {header : Node} {others : List Node} {alignments : List (Option Alignment)}
    {cells : Nat} {separators : List String} (count : cellCount header = .ok cells)
    (written : (columns (max cells 1) alignments).mapM dashes = .ok separators)
    (first : String) (rest : List String) :
    grid (header :: others) (some alignments) (first :: rest) =
      .ok ("\n".intercalate (first :: row separators :: rest)) := by
  simp only [grid, List.head?_cons, count, bind, Except.bind, written]
  rfl

/-- The lines of a table whose cells hold texts of one line. -/
theorem tabulates_intercalate {first : List String} {rest : List (List String)}
    {separators : List String} {alignments : List (Option Alignment)}
    (whole : ∀ texts ∈ first :: rest, ∀ text ∈ texts, '\n' ∉ text.toList)
    (plain : ∀ text ∈ separators, '|' ∉ text.toList ∧ '\n' ∉ text.toList)
    (read : separators.mapM readDashes = some (columns (max first.length 1) alignments)) :
    Tabulates (first :: rest) alignments
      ("\n".intercalate (writtenRow first :: row separators :: rest.map writtenRow)) := by
  have present : separators ≠ [] := by
    rintro rfl
    have length := length_columns (max first.length 1) alignments
    have none : [] = columns (max first.length 1) alignments := Option.some.inj read
    rw [← none, List.length_nil] at length
    omega
  have unbroken : ∀ texts ∈ first :: rest, '\n' ∉ (writtenRow texts).toList := by
    intro texts among
    refine newline_not_mem_row (List.forall_mem_map.2 fun text ht => ?_)
    exact newline_not_mem_escapeOnly (whole texts among text ht)
  obtain ⟨head, tail⟩ := List.forall_mem_cons.1 unbroken
  have middle := newline_not_mem_row fun text ht => (plain text ht).2
  have lines := lines_intercalate (List.cons_ne_nil (writtenRow first) _)
    (List.forall_mem_cons.2 ⟨head, List.forall_mem_cons.2 ⟨middle, List.forall_mem_map.2 tail⟩⟩)
  have rows := mapM_readRow (first :: rest)
  have shown : readSeparator (row separators).toList =
      some ((List.range (max 1 first.length)).map fun i => alignments[i]?.join) := by
    rw [readSeparator, readRow_of_free present fun text ht => (plain text ht).1, Option.bind_some,
      read, columns_eq, Nat.max_comm]
  constructor
  case count =>
    rw [lines]
    simp
  case read =>
    rw [List.map_cons] at rows
    simp only [readTable, lines, List.map_cons, List.map_map, Function.comp_def, rows, shown]
    rfl

/-! ## Documents -/

variable {o : MarkdownOptions} {context : Context}
  {step : Node → List String → Outcome RenderError String}

/-- The step writes tables, their rows and their cells as generic Markdown does. -/
def WritesTables (o : MarkdownOptions) (context : Context)
    (step : Node → List String → Outcome RenderError String) : Prop :=
  ∀ n fragments, n.kind = .table ∨ n.kind = .tableRow ∨ n.kind = .tableCell →
    (step n fragments).result = (convert o context n fragments).result

/-- The cell holds a text of one line: what the nodes in it are written as. -/
inductive CellHolds (step : Node → List String → Outcome RenderError String) :
    Node → String → Prop where
  | cell {key : Nat} {content : List Node} {fragments : List String}
      (written : (content.mapM (Node.fold step)).result = .ok fragments)
      (whole : ∀ fragment ∈ fragments, '\n' ∉ fragment.toList) :
      CellHolds step ⟨key, .tableCell content⟩ (String.join fragments)

/-- The row has cells that hold these texts. -/
inductive RowHolds (step : Node → List String → Outcome RenderError String) :
    Node → List String → Prop where
  | row {key : Nat} {cells : List Node} {texts : List String}
      (each : List.Forall₂ (CellHolds step) cells texts) :
      RowHolds step ⟨key, .tableRow cells⟩ texts

theorem CellHolds.whole {cell : Node} {text : String} (holds : CellHolds step cell text) :
    '\n' ∉ text.toList := by
  cases holds with
  | cell written whole =>
    rw [String.toList_join]
    simpa using whole

theorem RowHolds.whole {row : Node} {texts : List String} (holds : RowHolds step row texts) :
    ∀ text ∈ texts, '\n' ∉ text.toList := by
  cases holds with
  | row each =>
    have both := each.flip.imp fun _ _ cell => And.intro (CellHolds.whole cell) cell
    exact ((List.forall₂_and_left _ _).1 both).1

theorem RowHolds.count {row : Node} {texts : List String} (holds : RowHolds step row texts) :
    cellCount row = .ok texts.length := by
  cases holds with
  | row each => rw [← each.length_eq]; rfl

/-- The first row says how many columns there are, be it a header or not. -/
theorem tabulates_grid {rows : List Node} {alignments : List (Option Alignment)}
    {texts : List (List String)} (present : rows ≠ [])
    (each : List.Forall₂ (RowHolds step) rows texts)
    (known : ∀ word, some (.unknown word) ∉ alignments) :
    ∃ text, grid rows (some alignments) (texts.map writtenRow) = .ok text ∧
      Tabulates texts alignments text := by
  have both := each.flip.imp fun _ _ row => And.intro (RowHolds.whole row) row
  have whole := ((List.forall₂_and_left _ _).1 both).1
  cases each with
  | nil => exact absurd rfl present
  | @cons header first _ rest head tail =>
    have shown : ∀ word, some (.unknown word) ∉ columns (max first.length 1) alignments := by
      intro word among
      rw [columns_eq] at among
      obtain ⟨i, -, same⟩ := List.mem_map.1 among
      exact known word (List.mem_of_getElem? (Option.join_eq_some_iff.1 same))
    obtain ⟨separators, written, plain, read⟩ := exists_separators shown
    exact ⟨_, grid_eq_ok head.count written _ _, tabulates_intercalate whole plain read⟩

section
variable (tables : WritesTables o context step)
include tables

theorem fold_cell {cell : Node} {text : String} (holds : CellHolds step cell text) :
    (cell.fold step).result = .ok (escapeOnly ['|'] text) := by
  cases holds with
  | cell written whole =>
    rw [Node.fold_eq]
    refine (Outcome.bind_result_of_ok written _).trans ?_
    rw [tables _ _ (.inr (.inr rfl))]
    rfl

theorem fold_row {row : Node} {texts : List String} (holds : RowHolds step row texts) :
    (row.fold step).result = .ok (writtenRow texts) := by
  cases holds with
  | @row key cells _ each =>
    have fragments : (cells.mapM (Node.fold step)).result = .ok (texts.map (escapeOnly ['|'])) :=
      Outcome.mapM_result_eq_ok_iff.2
        (List.forall₂_map_right_iff.2 (each.imp fun _ _ cell => fold_cell tables cell))
    rw [Node.fold_eq]
    refine (Outcome.bind_result_of_ok fragments _).trans ?_
    rw [tables _ _ (.inr (.inl rfl))]
    rfl

/-- **What is read of a table is the texts of its cells and the alignments of its columns.** -/
theorem table_reads_back {key : Nat} {header : Option Node} {rows : List Node}
    {alignments : List (Option Alignment)} {texts : List (List String)}
    (present : header.isSome ∨ rows ≠ [])
    (each : List.Forall₂ (RowHolds step) (header.toList ++ rows) texts)
    (known : ∀ word, some (.unknown word) ∉ alignments) :
    ∃ text, ((Node.mk key (.table header rows (some alignments))).fold step).result = .ok text ∧
      Tabulates texts alignments text := by
  have written : ((header.toList ++ rows).mapM (Node.fold step)).result =
      .ok (texts.map writtenRow) :=
    Outcome.mapM_result_eq_ok_iff.2
      (List.forall₂_map_right_iff.2 (each.imp fun _ _ row => fold_row tables row))
  have visible : header.toList ++ rows ≠ [] := by
    cases header <;> simp_all
  have split : (Node.mk key (.table header rows (some alignments))).children =
      header.toList ++ rows := rfl
  rw [Node.fold_eq, split, Outcome.bind_result_of_ok written, tables _ _ (.inl rfl)]
  exact tabulates_grid visible each known

end

theorem writesTables_convert (o : MarkdownOptions) (context : Context) :
    WritesTables o context (convert o context) := fun _ _ _ => rfl

/-- A table without a header. Its cells hold bars, backslashes and spaces, its last row holds
nothing, and its second column has no alignment of its own. -/
theorem signs_read_back :
    let context := Context.of ⟨0, .document []⟩
    let bar : Node := ⟨4, .tableCell [⟨5, .code "|"⟩, ⟨6, .text "\\"⟩]⟩
    let blank : Node := ⟨7, .tableCell [⟨8, .text " "⟩]⟩
    let rows : List Node := [⟨3, .tableRow [bar, blank]⟩, ⟨9, .tableRow []⟩]
    let texts := [["`|`\\\\", " "], []]
    ((none : Option Node).isSome ∨ rows ≠ []) ∧
    List.Forall₂ (RowHolds (convert .standard context)) rows texts ∧
    (∀ word, some (.unknown word) ∉ [some Alignment.center]) ∧
    ∃ text, (transcode .standard context ⟨2, .table none rows (some [some .center])⟩).result =
        .ok text ∧
      Tabulates texts [some .center] text := by
  intro context bar blank rows texts
  have present : (none : Option Node).isSome ∨ rows ≠ [] := .inr (List.cons_ne_nil _ _)
  have known : ∀ word, some (.unknown word) ∉ [some Alignment.center] := by simp
  have each : List.Forall₂ (RowHolds (convert .standard context)) rows texts := by
    have code : ([⟨5, .code "|"⟩, ⟨6, .text "\\"⟩].mapM
        (Node.fold (convert .standard context))).result = .ok ["`|`", "\\\\"] := by
      simp only [List.mapM_cons, List.mapM_nil, Node.fold_eq, Node.children, Body.children]
      rfl
    have space : ([⟨8, .text " "⟩].mapM (Node.fold (convert .standard context))).result =
        .ok [" "] := by
      simp only [List.mapM_cons, List.mapM_nil, Node.fold_eq, Node.children, Body.children]
      rfl
    have bars : CellHolds (convert .standard context) bar "`|`\\\\" := .cell code (by decide)
    have blanks : CellHolds (convert .standard context) blank " " := .cell space (by decide)
    exact .cons (.row (.cons bars (.cons blanks .nil))) (.cons (.row .nil) .nil)
  exact ⟨present, each, known,
    table_reads_back (writesTables_convert .standard context) present each known⟩

end Manuscript.Markdown
