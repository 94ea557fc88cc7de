import Manuscript.Context

/-!
# Tables

A table has a line for each row and a line of dashes after the first one, which shows how the
columns are aligned. There are as many columns as the first row has cells, and at least one;
columns without an alignment of their own are plain.
-/

namespace Manuscript.Markdown

/-- The dashes under a column. -/
def dashes : Option Alignment → Except RenderError String
  | none => .ok "---"
  | some .left => .ok ":---"
  | some .center => .ok ":---:"
  | some .right => .ok "---:"
  | some (.unknown word) => .error (.unknownAlignment word)

/-- Cells side by side between bars. -/
def row (cells : List String) : String := "| " ++ " | ".intercalate cells ++ " |"

/-- The alignments of so many columns. -/
def columns (count : Nat) (alignments : List (Option Alignment)) : List (Option Alignment) :=
  (alignments ++ List.replicate (count - alignments.length) none).take count

/-- The number of cells in a row. -/
def cellCount (n : Node) : Except RenderError Nat :=
  match n.body with
  | .tableRow cells => .ok cells.length
  | _ => .error (.noAttribute n.kind.name "cells")

/-- The lines of a table from its rows and their fragments. A table without fragments is empty. -/
def grid (rows : List Node) (alignments : Option (List (Option Alignment)))
    (fragments : List String) : Except RenderError String := do
  match fragments with
  | [] => return ""
  | first :: rest =>
    let some header := rows.head? | throw .noRows
    let count := max (← cellCount header) 1
    let some alignments := alignments | throw .noAlignments
    let separators ← (columns count alignments).mapM dashes
    return "\n".intercalate (first :: row separators :: rest)

end Manuscript.Markdown
