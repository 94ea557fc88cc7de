import Manuscript.Document.Walk
import Manuscript.Event

/-!
# Parents

From a node back to what it stands in. A node that stands under several parents belongs to the one
met first in document order; every further parent is reported. The ancestors of a node are found by
going from parent to parent; a chain without repetitions is never longer than the map.
-/

namespace Manuscript

/-- The parent of every node below a root, by the node's key, and what was reported while the map
was made. -/
structure Parents where
  entries : List (Nat × Node)
  log : List Event

namespace Parents

def empty : Parents := ⟨[], []⟩

/-- The parent of a node; the root and nodes of another document have none. -/
def of? (parents : Parents) (n : Node) : Option Node := parents.entries.lookup n.key

/-- Enters a child of a parent. A child that has another parent keeps it. -/
def adopt (parent : Node) (parents : Parents) (child : Node) : Parents :=
  match parents.of? child with
  | none => { parents with entries := parents.entries ++ [(child.key, parent)] }
  | some first =>
    if first.key = parent.key then parents
    else { parents with log := parents.log ++ [.sharedNode child.kind first.kind parent.kind] }

/-- Enters everything directly below a node. -/
def adoptAll (parents : Parents) (parent : Node) : Parents :=
  parent.parts.foldl (adopt parent) parents

/-- The parents of everything below a root. -/
def ofRoot (root : Node) : Parents := root.places.foldl adoptAll empty

/-- Goes up from a node, at most so many steps. -/
def climb (parents : Parents) : Nat → Node → List Node
  | 0, _ => []
  | steps + 1, n =>
    match parents.of? n with
    | none => []
    | some parent => parent :: climb parents steps parent

/-- The ancestors of a node, the nearest one first. -/
def ancestors (parents : Parents) (n : Node) : List Node := parents.climb parents.entries.length n

/-- The nearest ancestor that is a block. -/
def enclosingBlock? (parents : Parents) (n : Node) : Option Node :=
  (parents.ancestors n).find? fun a => !a.isInline

/-- The number of lists around a node. -/
def listDepth (parents : Parents) (n : Node) : Nat :=
  (parents.ancestors n).countP fun a => a.kind == .list

end Parents

end Manuscript
