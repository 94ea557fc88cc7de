import Manuscript.Document.Node
import Manuscript.Options.Basic
import Manuscript.Text.Join
import Manuscript.Text.Lines

/-!
# Lists

The items of a list arrive without their markers. An item's marker stands before its first line and
its other lines are indented by the width of that marker, so that they belong to it.
-/

namespace Manuscript.Markdown

/-- The marker of the item at a position, for a list inside `depth` others. -/
def marker (o : MarkdownOptions) (depth : Nat) : Marking → Nat → String
  | .numbers start, position => toString (start + position) ++ ". "
  | .bullets, _ => String.singleton (o.bullet depth) ++ " "

/-- An item behind its marker. -/
def markedItem (marker item : String) : String :=
  marker ++ Text.indentContinuation marker.length item

/-- The items of a list; loose ones are set apart by a blank line. -/
def listing (o : MarkdownOptions) (depth : Nat) (marking : Marking) (tight : Bool)
    (items : List String) : String :=
  (if tight then "\n" else "\n\n").intercalate
    (items.mapIdx fun position item => markedItem (marker o depth marking position) item)

/-- The checkbox before an item. -/
def checkbox : Task → String
  | .checked => "[x]"
  | .unchecked => "[ ]"

/-- The blocks of an item, each on lines of its own, behind its checkbox if it has one. -/
def listItem (task : Option Task) (blocks : List String) : String :=
  let body := Text.joinNonempty "\n" blocks
  match task with
  | some task => checkbox task ++ " " ++ body
  | none => body

end Manuscript.Markdown
