import Manuscript.Document.Walk
import Manuscript.Outcome
import Manuscript.Text.Join

/-!
# Folding a document

A renderer says how a node is written once its children are. `Node.fold` applies that from the
leaves up: the children from left to right, then the node itself, whatever it is that comes of them.
`fold_eq` is the equation by which every proof about a renderer proceeds.
-/

namespace Manuscript

variable {ε α : Type}

namespace Node

/-- Renders the children of a node in order, then the node from their fragments. -/
def fold (step : Node → List α → Outcome ε α) (n : Node) : Outcome ε α := do
  let fragments ← n.children.attach.mapM fun ⟨c, _⟩ => fold step c
  step n fragments
termination_by n
decreasing_by exact sizeOf_lt_of_mem_children ‹_›

theorem fold_eq (step : Node → List α → Outcome ε α) (n : Node) :
    n.fold step = n.children.mapM (fold step) >>= step n := by
  rw [fold]
  congr 1
  exact List.mapM_subtype (fun _ _ => rfl) |>.trans (by rw [List.unattach_attach])

end Node

/-- Renders siblings. Inline nodes run on; as soon as one of them is a block, all are set apart by
blank lines, the empty ones left out. -/
def renderNodes (render : Node → Outcome ε String) (nodes : List Node) : Outcome ε String := do
  let fragments ← nodes.mapM render
  return if nodes.all Node.isInline then String.join fragments else Text.joinBlocks fragments

end Manuscript
