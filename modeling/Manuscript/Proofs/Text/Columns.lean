import Mathlib.Data.List.DropRight
import Mathlib.Data.List.TakeWhile
import Manuscript.Proofs.Text.Indentation

/-!
# Lines counted in columns

What the removal of indentation does, said without expanded tabs and common starts: all lines with
content move left by the width of the least indented one, and lines without content become empty.

* `width`: the column at which the content of a line begins;
* `expandTabs_eq`: expanded, an indentation is as many spaces as it is wide;
* `margin_map_expandTabs`: what the lines share then is the least of their widths;
* `removeIndentation_moves_left`: the lines of the result, from which it follows that removing once
  more changes nothing, and that a further tab before every line changes nothing.
-/

namespace Manuscript.Text

/-- The column after a character of an indentation: a tab leads to the next multiple of eight. -/
def nextColumn (column : Nat) (c : Char) : Nat :=
  if c = '\t' then (column / 8 + 1) * 8 else column + 1

/-- The column at which the content of a line begins that itself begins at `column`. -/
def contentColumn (column : Nat) (line : List Char) : Nat := (indent line).foldl nextColumn column

/-- How many columns wide the indentation of a line is. -/
def width (line : List Char) : Nat := contentColumn 0 line

/-- What follows the indentation of a line. -/
def content (line : List Char) : List Char := line.dropWhile isIndent

/-- The least width of the lines with content; zero if there is no such line. -/
def leastWidth (lines : List (List Char)) : Nat :=
  (((lines.filter fun line => !isBlankLine line).map width).min?).getD 0

/-- A line with content, moved left by so many columns; a line without content becomes empty. -/
def moved (columns : Nat) (line : List Char) : List Char :=
  if isBlankLine line then [] else List.replicate (width line - columns) ' ' ++ content line

variable {line : List Char} {lines : List (List Char)}

/-! ## One line -/

theorem nextColumn_space (column : Nat) : nextColumn column ' ' = column + 1 := rfl

theorem nextColumn_tab (column : Nat) : nextColumn column '\t' = column + (8 - column % 8) := by
  rw [nextColumn, if_pos rfl]
  omega

theorem contentColumn_nil (column : Nat) : contentColumn column [] = column := rfl

theorem contentColumn_cons {c : Char} (h : isIndent c = true) (column : Nat) (cs : List Char) :
    contentColumn column (c :: cs) = contentColumn (nextColumn column c) cs := by
  rw [contentColumn, indent, List.takeWhile_cons_of_pos h]
  rfl

theorem contentColumn_cons_of_content {c : Char} (h : isIndent c = false) (column : Nat)
    (cs : List Char) : contentColumn column (c :: cs) = column := by
  rw [contentColumn, indent, List.takeWhile_cons_of_neg (by simp [h])]
  rfl

theorem lt_nextColumn (column : Nat) (c : Char) : column < nextColumn column c := by
  unfold nextColumn
  split <;> omega

theorem le_contentColumn (column : Nat) (line : List Char) :
    column ≤ contentColumn column line := by
  induction line generalizing column with
  | nil => exact Nat.le_refl _
  | cons c cs ih =>
    cases h : isIndent c with
    | true =>
      rw [contentColumn_cons h]
      exact Nat.le_trans (Nat.le_of_lt (lt_nextColumn column c)) (ih _)
    | false => exact Nat.le_of_eq (contentColumn_cons_of_content h column cs).symm

/-- Tab stops are the same eight columns further on. -/
theorem contentColumn_add_eight (column : Nat) (line : List Char) :
    contentColumn (column + 8) line = contentColumn column line + 8 := by
  induction line generalizing column with
  | nil => rfl
  | cons c cs ih =>
    cases h : isIndent c with
    | true =>
      have further : nextColumn (column + 8) c = nextColumn column c + 8 := by
        unfold nextColumn
        split <;> omega
      rw [contentColumn_cons h, contentColumn_cons h, further, ih]
    | false => rw [contentColumn_cons_of_content h, contentColumn_cons_of_content h]

theorem width_tab (line : List Char) : width ('\t' :: line) = width line + 8 := by
  rw [width, contentColumn_cons rfl]
  exact contentColumn_add_eight 0 line

theorem expandTabs_cons {c : Char} (h : isIndent c = true) (column : Nat) (cs : List Char) :
    expandTabs column (c :: cs) =
      List.replicate (nextColumn column c - column) ' ' ++ expandTabs (nextColumn column c) cs := by
  have indents : c = ' ' ∨ c = '\t' := by simpa [isIndent] using h
  rcases indents with rfl | rfl
  · rw [expandTabs, if_pos rfl, nextColumn_space, Nat.add_sub_cancel_left]
    rfl
  · rw [expandTabs, if_neg (by decide), if_pos rfl, nextColumn_tab, Nat.add_sub_cancel_left]

/-- Expanded, an indentation is as many spaces as there are columns up to the content. -/
theorem expandTabs_eq (column : Nat) (line : List Char) :
    expandTabs column line =
      List.replicate (contentColumn column line - column) ' ' ++ content line := by
  induction line generalizing column with
  | nil => simp [expandTabs, contentColumn_nil, content]
  | cons c cs ih =>
    cases h : isIndent c with
    | true =>
      have rest : content (c :: cs) = content cs := List.dropWhile_cons_of_pos h
      have after := lt_nextColumn column c
      have far := le_contentColumn (nextColumn column c) cs
      rw [expandTabs_cons h, ih, contentColumn_cons h, rest, ← List.append_assoc,
        List.replicate_append_replicate]
      congr 2
      omega
    | false =>
      have visible : c ≠ ' ' ∧ c ≠ '\t' := by simpa [isIndent] using h
      rw [expandTabs, if_neg visible.1, if_neg visible.2, contentColumn_cons_of_content h, content,
        List.dropWhile_cons_of_neg (by simp [h]), Nat.sub_self]
      rfl

/-! ## Lines indented by spaces alone -/

theorem isBlankLine_iff : isBlankLine line = true ↔ content line = [] := by
  rw [isBlankLine, content, List.all_eq_true, List.dropWhile_eq_nil_iff]

theorem isBlankLine_congr {other : List Char} (same : content line = content other) :
    isBlankLine line = isBlankLine other := by
  rw [Bool.eq_iff_iff, isBlankLine_iff, isBlankLine_iff, same]

theorem content_content (line : List Char) : content (content line) = content line :=
  List.dropWhile_idempotent isIndent line

section
variable {rest : List Char} (begins : content rest = rest) (columns : Nat)
include begins

theorem indent_eq_nil : indent rest = [] := by
  have parts : indent rest ++ content rest = rest := List.takeWhile_append_dropWhile
  rw [begins] at parts
  exact List.append_left_eq_self.1 parts

theorem indent_spaces :
    indent (List.replicate columns ' ' ++ rest) = List.replicate columns ' ' := by
  rw [indent, List.takeWhile_append_of_pos, ← indent, indent_eq_nil begins, List.append_nil]
  intro c hc
  rw [List.eq_of_mem_replicate hc]
  rfl

theorem content_spaces : content (List.replicate columns ' ' ++ rest) = rest := by
  rw [content, List.dropWhile_append_of_pos, ← content, begins]
  intro c hc
  rw [List.eq_of_mem_replicate hc]
  rfl

theorem width_spaces : width (List.replicate columns ' ' ++ rest) = columns := by
  rw [width, contentColumn, indent_spaces begins]
  induction columns with
  | zero => rfl
  | succ columns ih => rw [List.replicate_succ', List.foldl_concat, ih, nextColumn_space]

end

theorem indent_expandTabs (line : List Char) :
    indent (expandTabs 0 line) = List.replicate (width line) ' ' := by
  rw [expandTabs_eq, indent_spaces (content_content line), Nat.sub_zero, width]

theorem isBlankLine_expandTabs (line : List Char) :
    isBlankLine (expandTabs 0 line) = isBlankLine line := by
  rw [expandTabs_eq, isBlankLine_congr (content_spaces (content_content line) _)]

theorem drop_expandTabs {columns : Nat} (near : columns ≤ width line) :
    (expandTabs 0 line).drop columns =
      List.replicate (width line - columns) ' ' ++ content line := by
  have fits : columns ≤ (List.replicate (width line) ' ').length := by simpa using near
  rw [expandTabs_eq, Nat.sub_zero, ← width, List.drop_append_of_le_length fits,
    List.drop_replicate]

/-! ## What lines share -/

theorem commonStart_replicate (m n : Nat) (c : Char) :
    commonStart (List.replicate m c) (List.replicate n c) = List.replicate (min m n) c := by
  induction m generalizing n with
  | zero => rw [Nat.zero_min]; rfl
  | succ m ih =>
    cases n with
    | zero => rw [Nat.min_zero]; rfl
    | succ n =>
      rw [Nat.succ_min_succ, List.replicate_succ, List.replicate_succ, List.replicate_succ,
        commonStart, if_pos rfl, ih]

theorem foldl_commonStart_replicate (first : Nat) (others : List Nat) (c : Char) :
    (others.map (List.replicate · c)).foldl commonStart (List.replicate first c) =
      List.replicate (others.foldl min first) c := by
  induction others generalizing first with
  | nil => rfl
  | cons second others ih => rw [List.map_cons, List.foldl_cons, commonStart_replicate, ih]; rfl

/-- Expanded, lines with content share as much as the least indented one has. -/
theorem margin_map_expandTabs (lines : List (List Char)) :
    margin (lines.map (expandTabs 0)) = List.replicate (leastWidth lines) ' ' := by
  have same : ((lines.map (expandTabs 0)).filter fun line => !isBlankLine line).map indent =
      ((lines.filter fun line => !isBlankLine line).map width).map (List.replicate · ' ') := by
    rw [List.filter_map, List.map_map, List.map_map]
    simp only [Function.comp_def, isBlankLine_expandTabs, indent_expandTabs]
  rw [margin, leastWidth, same]
  cases (lines.filter fun line => !isBlankLine line).map width with
  | nil => rfl
  | cons first others =>
    rw [List.map_cons, List.min?_cons']
    exact foldl_commonStart_replicate first others ' '

theorem mem_widths_iff {columns : Nat} :
    columns ∈ (lines.filter fun line => !isBlankLine line).map width ↔
      ∃ line ∈ lines, isBlankLine line = false ∧ width line = columns := by
  simp [and_assoc]

theorem leastWidth_le (hl : line ∈ lines) (visible : isBlankLine line = false) :
    leastWidth lines ≤ width line :=
  List.min?_getD_le_of_mem (mem_widths_iff.2 ⟨line, hl, visible, rfl⟩)

/-- The least width is that of a line, if any line has content. -/
theorem exists_width_eq_leastWidth (some : ∃ line ∈ lines, isBlankLine line = false) :
    ∃ line ∈ lines, isBlankLine line = false ∧ width line = leastWidth lines := by
  obtain ⟨line, hl, visible⟩ := some
  have among := mem_widths_iff.2 ⟨line, hl, visible, rfl⟩
  rw [← mem_widths_iff, leastWidth]
  cases least : ((lines.filter fun line => !isBlankLine line).map width).min? with
  | none =>
    rw [List.min?_eq_none_iff.1 least] at among
    cases among
  | some columns => exact List.min?_mem least

theorem toList_dedented (s : String) :
    (dedented s).toList = (Lines.ofChars s.toList).toList.map
      (moved (leastWidth (Lines.ofChars s.toList).toList)) := by
  rw [dedented, Lines.dedent, Lines.toList_map, Lines.toList_map, List.map_map,
    margin_map_expandTabs, List.length_replicate]
  refine List.map_congr_left fun line hl => ?_
  rw [Function.comp_apply, isBlankLine_expandTabs, moved]
  split
  next => rfl
  next visible => exact drop_expandTabs (leastWidth_le hl (by simpa using visible))

/-! ## Lines that are all shifted -/

/-- A change of lines that shifts the indentation of all lines with content alike. -/
structure Shifts (f : List Char → List Char) (lines : List (List Char)) (left right : Nat) :
    Prop where
  content : ∀ line ∈ lines, content (f line) = content line
  width : ∀ line ∈ lines, isBlankLine line = false → width (f line) + left = width line + right

section
variable {f : List Char → List Char} {left right : Nat}

theorem Shifts.isBlankLine (shifts : Shifts f lines left right) (hl : line ∈ lines) :
    isBlankLine (f line) = isBlankLine line :=
  isBlankLine_congr (shifts.content line hl)

theorem Shifts.leastWidth (shifts : Shifts f lines left right)
    (some : ∃ line ∈ lines, Text.isBlankLine line = false) :
    leastWidth (lines.map f) + left = leastWidth lines + right := by
  -- The least indented line of either text is a line of the other one, and bounds its least width.
  obtain ⟨line, hl, visible, least⟩ := exists_width_eq_leastWidth some
  have shifted := shifts.width line hl visible
  have visible' : Text.isBlankLine (f line) = false := shifts.isBlankLine hl ▸ visible
  have below := leastWidth_le (List.mem_map_of_mem hl) visible'
  have some' : ∃ line ∈ lines.map f, Text.isBlankLine line = false :=
    ⟨f line, List.mem_map_of_mem hl, visible'⟩
  obtain ⟨_, among, visible', least'⟩ := exists_width_eq_leastWidth some'
  obtain ⟨other, ho, rfl⟩ := List.mem_map.1 among
  have other_visible : Text.isBlankLine other = false := shifts.isBlankLine ho ▸ visible'
  have other_shifted := shifts.width other ho other_visible
  have above := leastWidth_le ho other_visible
  omega

/-- Lines that were shifted end up where they would have ended up anyway. -/
theorem Shifts.map_moved (shifts : Shifts f lines left right) :
    (lines.map f).map (moved (Text.leastWidth (lines.map f))) =
      lines.map (moved (Text.leastWidth lines)) := by
  rw [List.map_map]
  refine List.map_congr_left fun line hl => ?_
  rw [Function.comp_apply, moved, moved, shifts.isBlankLine hl]
  split
  next => rfl
  next visible =>
    have visible : Text.isBlankLine line = false := by simpa using visible
    have least := shifts.leastWidth ⟨line, hl, visible⟩
    have shifted := shifts.width line hl visible
    rw [shifts.content line hl]
    congr 2
    omega

end

theorem content_moved (columns : Nat) (line : List Char) :
    content (moved columns line) = content line := by
  unfold moved
  split
  next blank => rw [isBlankLine_iff.1 blank]; rfl
  next => exact content_spaces (content_content line) _

theorem width_moved {columns : Nat} (visible : isBlankLine line = false) :
    width (moved columns line) = width line - columns := by
  rw [moved, if_neg (by simp [visible]), width_spaces (content_content line)]

theorem indent_moved {columns : Nat} (visible : isBlankLine line = false)
    (all : width line ≤ columns) : indent (moved columns line) = [] := by
  rw [moved, if_neg (by simp [visible]), indent_spaces (content_content line),
    Nat.sub_eq_zero_of_le all, List.replicate_zero]

theorem shifts_moved (lines : List (List Char)) :
    Shifts (moved (leastWidth lines)) lines (leastWidth lines) 0 where
  content line _ := content_moved _ line
  width line hl visible := by
    rw [width_moved visible, Nat.add_zero, Nat.sub_add_cancel (leastWidth_le hl visible)]

theorem shifts_tab (lines : List (List Char)) : Shifts ("\t".toList ++ ·) lines 0 8 where
  content _ _ := rfl
  width line _ _ := width_tab line

/-! ## Texts -/

theorem lines_removeIndentation (s : String) :
    (Lines.ofChars (removeIndentation s).toList).toList = (Lines.ofChars s.toList).toList.map
      (moved (leastWidth (Lines.ofChars s.toList).toList)) := by
  rw [ofChars_removeIndentation, toList_dedented]

/-- A text whose lines are those of another one, all shifted alike, has the same lines left. -/
theorem removeIndentation_eq_of_shifts {f : List Char → List Char} {left right : Nat}
    {s t : String}
    (lines : (Lines.ofChars t.toList).toList = (Lines.ofChars s.toList).toList.map f)
    (shifts : Shifts f (Lines.ofChars s.toList).toList left right) :
    removeIndentation t = removeIndentation s := by
  apply eq_of_lines_eq
  rw [lines_removeIndentation, lines_removeIndentation, lines, shifts.map_moved]

/-- The lines after a move to the left by so many columns: as many as all lines with content can
be moved. -/
structure MovedLeft (columns : Nat) (before after : List (List Char)) : Prop where
  count : after.length = before.length
  lines : after = before.map (moved columns)
  least : ∀ line ∈ before, isBlankLine line = false → columns ≤ width line
  attained : (∃ line ∈ before, isBlankLine line = false) →
    ∃ line ∈ before, isBlankLine line = false ∧ width line = columns
  /-- Some content then begins in the first column. -/
  margin : (∃ line ∈ before, isBlankLine line = false) →
    ∃ line ∈ after, isBlankLine line = false ∧ indent line = []

/-- **The removal of indentation moves all lines to the left until one has its content at the
margin.** It does nothing to what it has made, and takes away a tab before every line. -/
theorem removeIndentation_moves_left (s : String) :
    MovedLeft (leastWidth (Lines.ofChars s.toList).toList) (Lines.ofChars s.toList).toList
      (Lines.ofChars (removeIndentation s).toList).toList ∧
    removeIndentation (removeIndentation s) = removeIndentation s ∧
    removeIndentation (prefixLines "\t" s) = removeIndentation s := by
  have lines := lines_removeIndentation s
  refine ⟨⟨?_, lines, ?_, exists_width_eq_leastWidth, ?_⟩, ?_, ?_⟩
  · rw [lines, List.length_map]
  · exact fun line hl visible => leastWidth_le hl visible
  · intro some
    obtain ⟨line, hl, visible, least⟩ := exists_width_eq_leastWidth some
    rw [lines]
    refine ⟨_, List.mem_map_of_mem hl, ?_, indent_moved visible (Nat.le_of_eq least)⟩
    rw [isBlankLine_congr (content_moved _ line), visible]
  · exact removeIndentation_eq_of_shifts lines (shifts_moved _)
  · refine removeIndentation_eq_of_shifts ?_ (shifts_tab _)
    rw [ofChars_prefixLines (by decide), Lines.toList_map]

end Manuscript.Text
