import Manuscript.Text.Lines

/-!
# Common indentation

Spaces and tabs at the start of a line indent it. Tabs stand for spaces up to the next multiple of
eight columns, so that a tab and eight spaces indent alike. `removeIndentation` takes away what all
lines with content share; a line of spaces and tabs alone has no content and comes out empty.
-/

namespace Manuscript.Text

/-- A space or a tab. -/
def isIndent (c : Char) : Bool := c == ' ' || c == '\t'

/-- Writes the tabs at the start of a line as spaces, counting columns from `column`. -/
def expandTabs (column : Nat) : List Char → List Char
  | [] => []
  | c :: cs =>
    if c = ' ' then ' ' :: expandTabs (column + 1) cs
    else if c = '\t' then
      let width := 8 - column % 8
      List.replicate width ' ' ++ expandTabs (column + width) cs
    else c :: cs

/-- The part of a line that indents it. -/
def indent (line : List Char) : List Char := line.takeWhile isIndent

/-- A line of spaces and tabs alone. -/
def isBlankLine (line : List Char) : Bool := line.all isIndent

/-- The longest start that two lists share. -/
def commonStart : List Char → List Char → List Char
  | a :: as, b :: bs => if a = b then a :: commonStart as bs else []
  | _, _ => []

/-- The indentation shared by every line with content; nothing if there is no such line. -/
def margin (lines : List (List Char)) : List Char :=
  match (lines.filter fun line => !isBlankLine line).map indent with
  | [] => []
  | first :: others => others.foldl commonStart first

/-- Takes the shared indentation off every line and empties the lines without content. -/
def Lines.dedent (lines : Lines) : Lines :=
  let width := (margin lines.toList).length
  lines.map fun line => if isBlankLine line then [] else line.drop width

/-- Removes the indentation common to all lines with content, tabs counted in columns. -/
def removeIndentation (s : String) : String :=
  onLines (fun lines => (lines.map (expandTabs 0)).dedent) s

end Manuscript.Text
