import Manuscript.Document.Walk
import Manuscript.Text.Join

/-!
# Plain text

The text of a document without its markup: the contents of the text nodes among the children, set
apart by a joiner. Parts without text take no part in the joining.
-/

namespace Manuscript

open Text

namespace Node

/-- The text of a node and its children. -/
def plainText (joiner : String) (n : Node) : String :=
  match n.text? with
  | some s => s
  | none => joinNonempty joiner (n.children.attach.map fun ⟨c, _⟩ => plainText joiner c)
termination_by n
decreasing_by exact sizeOf_lt_of_mem_children ‹_›

theorem plainText_eq (joiner : String) (n : Node) :
    n.plainText joiner =
      match n.text? with
      | some s => s
      | none => joinNonempty joiner (n.children.map (plainText joiner)) := by
  rw [plainText]
  split
  · rfl
  · congr 1
    exact List.map_subtype (fun _ _ => rfl) |>.trans (by rw [List.unattach_attach])

end Node

/-- The text of several nodes. -/
def plainText (joiner : String) (nodes : List Node) : String :=
  joinNonempty joiner (nodes.map (Node.plainText joiner))

end Manuscript
