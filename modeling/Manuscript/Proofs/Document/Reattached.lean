import Manuscript.Proofs.Document.Refilled
import Manuscript.Proofs.Outcome

/-!
# Documents that differ in what is attached

The caption of a paragraph and the definition that a reference brings along belong to a node without
being written at its place:

* `Body.bare`: a body without them;
* `Node.Reattached`: two nodes that differ in nothing else, at any places;
* `fold_reattached`: what a fold makes of the one it makes of the other, if its steps do not look at
  what is attached.
-/

namespace Manuscript

/-- The body with nothing attached to it. -/
def Body.bare {α : Type} : Body α → Body α
  | paragraph content _ => paragraph content []
  | footnoteReference label _ => footnoteReference label none
  | b => b

@[simp] theorem Body.children_bare {α : Type} (b : Body α) : b.bare.children = b.children := by
  cases b <;> rfl

/-- The second node is the first one with other captions and other definitions in references, at any
places. -/
inductive Node.Reattached : Node → Node → Prop where
  | mk (key : Nat) (pairs : Body (Node × Node)) {b b' : Body Node}
      (left : b.bare = pairs.map Prod.fst) (right : b'.bare = pairs.map Prod.snd)
      (each : ∀ q ∈ pairs.children, Reattached q.1 q.2) : Reattached ⟨key, b⟩ ⟨key, b'⟩

variable {ε : Type} {step : Node → List String → Outcome ε String} {n n' : Node}

theorem fold_reattached
    (same : ∀ n n' fragments, Node.Reattached n n' → step n' fragments = step n fragments)
    (h : Node.Reattached n n') : n'.fold step = n.fold step := by
  induction h with
  | @mk key pairs b b' left right each ih =>
    have here : step ⟨key, b'⟩ = step ⟨key, b⟩ :=
      funext fun fragments => same _ _ fragments (.mk key pairs left right each)
    have children : b.children = pairs.children.map Prod.fst := by
      rw [← b.children_bare, left, Body.children_map]
    have children' : b'.children = pairs.children.map Prod.snd := by
      rw [← b'.children_bare, right, Body.children_map]
    have below : b'.children.mapM (Node.fold step) = b.children.mapM (Node.fold step) := by
      rw [children, children', List.mapM_map, List.mapM_map]
      exact Outcome.mapM_congr ih
    rw [Node.fold_eq, Node.fold_eq]
    show b'.children.mapM _ >>= _ = b.children.mapM _ >>= _
    rw [below, here]

end Manuscript
