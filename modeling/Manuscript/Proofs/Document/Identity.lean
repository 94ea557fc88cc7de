import Mathlib.Data.List.Nodup
import Mathlib.Data.List.Pairwise
import Mathlib.Data.List.Perm.Basic
import Manuscript.Document.Walk

/-!
# Identity

A node is told from others by its key alone, and one node may stand at several places. That makes
sense only where nothing else carries its key:

* `Coherent`: in a document one key belongs to one node;
* `Coherent.any_key_iff`: so that nodes are found by their keys;
* `Unshared`: besides, no node stands at two places;
* `mem_preorder_of_mem_parts`: what is directly below a node of a document belongs to the document;
* `cons_flatMap_parts_perm`: a node stands directly below others as often as it stands in the
  document at all;
* `Unshared.parent_unique`: where nodes are not shared it is directly below one node only.
-/

namespace Manuscript.Node

/-- Nodes of a document that carry the same key are the same node, at however many places it
stands. A document of distinct objects that are told apart by their identity is of this kind. -/
def Coherent (root : Node) : Prop :=
  ∀ m ∈ root.preorder, ∀ n ∈ root.preorder, m.key = n.key → m = n

/-- No key is met twice on a walk through the document. -/
def Unshared (root : Node) : Prop := (root.preorder.map Node.key).Nodup

theorem Unshared.coherent {root : Node} (h : root.Unshared) : root.Coherent :=
  fun _ hm _ hn same => List.inj_on_of_nodup_map h hm hn same

/-- Among nodes of a document a node is found by its key. -/
theorem Coherent.any_key_iff {root n : Node} (coherent : root.Coherent) (hn : n ∈ root.preorder)
    {nodes : List Node} (inside : nodes ⊆ root.preorder) :
    (nodes.any fun m => m.key == n.key) = true ↔ n ∈ nodes := by
  rw [List.any_eq_true]
  constructor
  · rintro ⟨m, hm, same⟩
    exact coherent m (inside hm) n hn (beq_iff_eq.1 same) ▸ hm
  · exact fun among => ⟨n, among, beq_self_eq_true _⟩

theorem mem_preorder_of_mem_parts {root n c : Node} (hn : n ∈ root.preorder) (hc : c ∈ n.parts) :
    c ∈ root.preorder := by
  induction root using Node.induction with
  | step root ih =>
    rcases mem_preorder_iff.1 hn with rfl | ⟨d, hd, below⟩
    · exact mem_preorder_iff.2 (.inr ⟨c, hc, c.self_mem_preorder⟩)
    · exact mem_preorder_iff.2 (.inr ⟨d, hd, ih d hd below⟩)

theorem mem_walk_of_mem {nodes : List Node} {c : Node} (hc : c ∈ nodes) : c ∈ walk nodes := by
  rw [walk_eq_flatMap_preorder]
  exact List.mem_flatMap.2 ⟨c, hc, c.self_mem_preorder⟩

theorem preorder_subset {root n : Node} (hn : n ∈ root.preorder) : n.preorder ⊆ root.preorder := by
  induction n using Node.induction with
  | step n ih =>
    intro m hm
    rcases mem_preorder_iff.1 hm with rfl | ⟨c, hc, below⟩
    · exact hn
    · exact ih c hc (mem_preorder_of_mem_parts hn hc) below

/-- The root and what is directly below the nodes met on a walk are the nodes met on it, each as
often as it is met. -/
theorem cons_flatMap_parts_perm (root : Node) :
    (root :: root.preorder.flatMap parts).Perm root.preorder := by
  induction root using Node.induction with
  | step n ih =>
    rw [preorder_eq]
    refine List.Perm.cons n ?_
    calc (n :: n.parts.flatMap preorder).flatMap parts
        = n.parts.flatMap (fun c => [c]) ++
            n.parts.flatMap (fun c => c.preorder.flatMap parts) := by simp [List.flatMap_assoc]
      List.Perm _ (n.parts.flatMap fun c => [c] ++ c.preorder.flatMap parts) :=
          List.flatMap_append_perm ..
      List.Perm _ (n.parts.flatMap preorder) := List.Perm.flatMap_left _ fun c hc => ih c hc

theorem exists_parent_of_mem_preorder {root n : Node} (h : n ∈ root.preorder) :
    n = root ∨ ∃ p ∈ root.preorder, n ∈ p.parts := by
  rcases List.mem_cons.1 ((cons_flatMap_parts_perm root).mem_iff.2 h) with rfl | below
  · exact .inl rfl
  · exact .inr (List.mem_flatMap.1 below)

theorem Unshared.parent_unique {root : Node} (h : root.Unshared) {p q c : Node}
    (hp : p ∈ root.preorder) (hq : q ∈ root.preorder) (hcp : c ∈ p.parts) (hcq : c ∈ q.parts) :
    p = q := by
  have nodup : root.preorder.Nodup := List.Nodup.of_map _ h
  have below : (root.preorder.flatMap parts).Nodup :=
    (List.nodup_cons.1 ((cons_flatMap_parts_perm root).nodup_iff.2 nodup)).2
  have disjoint := (List.nodup_flatMap.1 below).2
  have : Std.Symm (Function.onFun List.Disjoint parts) := ⟨fun _ _ apart _ ha hb => apart hb ha⟩
  exact Classical.byContradiction fun ne => disjoint.forall hp hq ne hcp hcq

theorem size_le_of_mem_preorder {root n : Node} (h : n ∈ root.preorder) : n.size ≤ root.size := by
  induction root using Node.induction with
  | step root ih =>
    rcases mem_preorder_iff.1 h with rfl | ⟨c, hc, below⟩
    · exact Nat.le_refl _
    · exact Nat.le_of_lt (Nat.lt_of_le_of_lt (ih c hc below) (size_lt_of_mem_parts hc))

theorem size_lt_of_mem_parts_of_mem {root p c : Node} (hp : p ∈ root.preorder)
    (hc : c ∈ p.parts) : c.size < root.size :=
  Nat.lt_of_lt_of_le (size_lt_of_mem_parts hc) (size_le_of_mem_preorder hp)

end Manuscript.Node
