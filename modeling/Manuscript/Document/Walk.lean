import Manuscript.Document.Node

/-!
# Walks through a document

The nodes of a document in document order: a node, then everything below it from left to right,
attached nodes after children. A node that stands at several places is met at each of them.
`preorder` follows the tree; `walk` works off a list of nodes still to be visited, and
`walk_eq_flatMap_preorder` says that both meet the same nodes in the same order. `size` counts the
nodes met and serves as the measure of every other walk.
-/

namespace Manuscript

namespace Node

/-- A node and everything below it, in document order. -/
def preorder (n : Node) : List Node :=
  n :: n.parts.attach.flatMap fun ⟨c, _⟩ => preorder c
termination_by n
decreasing_by exact sizeOf_lt_of_mem_parts ‹_›

theorem preorder_eq (n : Node) : n.preorder = n :: n.parts.flatMap preorder := by
  rw [preorder]
  congr 1
  exact List.flatMap_subtype (fun _ _ => rfl) |>.trans (by rw [List.unattach_attach])

/-- The number of places at which a walk from the node stops. -/
def size (n : Node) : Nat := n.preorder.length

theorem self_mem_preorder (n : Node) : n ∈ n.preorder := by
  rw [preorder_eq]
  exact List.mem_cons_self ..

theorem mem_preorder_iff {n m : Node} :
    m ∈ n.preorder ↔ m = n ∨ ∃ c ∈ n.parts, m ∈ c.preorder := by
  rw [preorder_eq]
  simp

end Node

/-- The number of places at which a walk through the nodes stops. -/
def weight : List Node → Nat
  | [] => 0
  | n :: rest => n.size + weight rest

@[simp] theorem weight_nil : weight [] = 0 := rfl

@[simp] theorem weight_cons (n : Node) (nodes : List Node) :
    weight (n :: nodes) = n.size + weight nodes := rfl

@[simp] theorem weight_append (nodes others : List Node) :
    weight (nodes ++ others) = weight nodes + weight others := by
  induction nodes with
  | nil => simp
  | cons n nodes ih => simp [ih, Nat.add_assoc]

theorem weight_eq_length (nodes : List Node) :
    weight nodes = (nodes.flatMap Node.preorder).length := by
  induction nodes with
  | nil => rfl
  | cons n nodes ih => rw [weight_cons, ih, List.flatMap_cons, List.length_append, Node.size]

theorem size_le_weight {n : Node} {nodes : List Node} (h : n ∈ nodes) : n.size ≤ weight nodes := by
  induction nodes with
  | nil => cases h
  | cons m nodes ih =>
    rw [weight_cons]
    rcases List.mem_cons.1 h with rfl | h
    · exact Nat.le_add_right ..
    · exact Nat.le_trans (ih h) (Nat.le_add_left ..)

namespace Node

theorem size_eq (n : Node) : n.size = 1 + weight n.parts := by
  rw [size, preorder_eq, List.length_cons, ← weight_eq_length, Nat.add_comm]

theorem size_pos (n : Node) : 0 < n.size := by
  rw [size_eq]
  omega

theorem size_lt_of_mem_parts {n c : Node} (h : c ∈ n.parts) : c.size < n.size := by
  rw [size_eq n]
  have := size_le_weight h
  omega

end Node

/-- Visits the first node of a list, puts what is below it in its place and goes on. -/
def walk : List Node → List Node
  | [] => []
  | n :: rest => n :: walk (n.parts ++ rest)
termination_by nodes => weight nodes
decreasing_by simp [Node.size_eq n]

theorem walk_eq_flatMap_preorder (nodes : List Node) :
    walk nodes = nodes.flatMap Node.preorder := by
  fun_induction walk nodes with
  | case1 => rfl
  | case2 n rest ih => simp [ih, Node.preorder_eq n]

namespace Node

/-- Every place of a document in document order. -/
def places (root : Node) : List Node := walk [root]

theorem places_eq_preorder (root : Node) : root.places = root.preorder := by
  simp [places, walk_eq_flatMap_preorder]

/-- The nodes of a list without repetitions, each where it is met first. -/
def distinct (nodes : List Node) : List Node :=
  nodes.foldl (fun met n => if met.any (·.key == n.key) then met else met ++ [n]) []

end Node

end Manuscript
