import Mathlib.Data.Prod.Lex
import Manuscript.Proofs.Document.Ancestry
import Manuscript.Proofs.Leanpub.Calls

/-!
# Captions within captions

An image shows the caption of the block around it, which may hold images in captioned paragraphs of
its own. So writing leads back up to a block and down again into its caption. An image in a caption
does not show that caption, and every other block that is met is smaller:

* `nesting`: a bound on how many captions can be shown within one another from a node on;
* `nesting_le_of_mem_children`, `nesting_lt_of_mem_captionAround`: it falls with every caption that
  is shown and never rises;
* `acc_calls`: in a document without shared nodes no node leads on without end.
-/

namespace Manuscript.Leanpub.Export

variable {root : Node} {x : Export}

/-- The size of the block around a node, less one if the node stands in the block's caption. -/
def nesting (root n : Node) : Nat :=
  match (Parents.ofRoot root).enclosingBlock? n with
  | none => root.size
  | some b => if (walk b.attached).any (·.key == n.key) then b.size - 1 else b.size

theorem any_key_iff (coherent : root.Coherent) {b n : Node} (hb : b ∈ root.preorder)
    (hn : n ∈ root.preorder) :
    (walk b.attached).any (·.key == n.key) = true ↔ n ∈ walk b.attached := by
  refine coherent.any_key_iff hn fun m hm => ?_
  rw [walk_eq_flatMap_preorder] at hm
  obtain ⟨c, hc, below⟩ := List.mem_flatMap.1 hm
  have hcr := Node.mem_preorder_of_mem_parts hb (List.mem_append_right _ hc)
  exact Node.preorder_subset hcr below

theorem nesting_of_none {n : Node} (h : (Parents.ofRoot root).enclosingBlock? n = none) :
    nesting root n = root.size := by
  rw [nesting, h]

theorem nesting_of_mem (coherent : root.Coherent) {n b : Node} (hn : n ∈ root.preorder)
    (h : (Parents.ofRoot root).enclosingBlock? n = some b) (inside : n ∈ walk b.attached) :
    nesting root n = b.size - 1 := by
  have hb := (Parents.enclosingBlock?_larger coherent hn h).1
  simp only [nesting, h, (any_key_iff coherent hb hn).2 inside, if_true]

theorem nesting_of_not_mem (coherent : root.Coherent) {n b : Node} (hn : n ∈ root.preorder)
    (h : (Parents.ofRoot root).enclosingBlock? n = some b) (outside : n ∉ walk b.attached) :
    nesting root n = b.size := by
  have hb := (Parents.enclosingBlock?_larger coherent hn h).1
  simp only [nesting, h, mt (any_key_iff coherent hb hn).1 outside, if_false, Bool.false_eq_true]

/-- A node fits into its nesting, and that into the document. -/
theorem nesting_bounds (coherent : root.Coherent) {n : Node} (hn : n ∈ root.preorder) :
    n.size ≤ nesting root n ∧ nesting root n ≤ root.size := by
  cases h : (Parents.ofRoot root).enclosingBlock? n with
  | none =>
    rw [nesting_of_none h]
    exact ⟨Node.size_le_of_mem_preorder hn, Nat.le_refl _⟩
  | some b =>
    obtain ⟨hb, larger, -⟩ := Parents.enclosingBlock?_larger coherent hn h
    have within := Node.size_le_of_mem_preorder hb
    by_cases inside : n ∈ walk b.attached
    · rw [nesting_of_mem coherent hn h inside]
      omega
    · rw [nesting_of_not_mem coherent hn h inside]
      omega

theorem mem_walk_of_mem_parts {nodes : List Node} {n c : Node} (hn : n ∈ walk nodes)
    (hc : c ∈ n.parts) : c ∈ walk nodes := by
  rw [walk_eq_flatMap_preorder] at hn ⊢
  obtain ⟨m, hm, inside⟩ := List.mem_flatMap.1 hn
  exact List.mem_flatMap.2 ⟨m, hm, Node.mem_preorder_of_mem_parts inside hc⟩

theorem nesting_le_of_mem_children (unshared : root.Unshared) {n c : Node}
    (hn : n ∈ root.preorder) (hc : c ∈ n.children) :
    c ∈ root.preorder ∧ nesting root c ≤ nesting root n := by
  have coherent := unshared.coherent
  have below := Node.mem_parts_of_mem_children hc
  have hcr := Node.mem_preorder_of_mem_parts hn below
  refine ⟨hcr, ?_⟩
  have up := Parents.enclosingBlock?_of_some coherent hcr (Parents.of?_eq_some unshared hn below)
  cases inline : n.isInline with
  | false =>
    -- The node is the block around its child, and it fits into its own nesting.
    rw [inline, if_neg Bool.false_ne_true] at up
    have fits := (nesting_bounds coherent hn).1
    by_cases inside : c ∈ walk n.attached
    · rw [nesting_of_mem coherent hcr up inside]
      omega
    · rw [nesting_of_not_mem coherent hcr up inside]
      exact fits
  | true =>
    -- The same block is around both, and the child stands in its caption if the node does.
    rw [inline, if_pos rfl] at up
    cases h : (Parents.ofRoot root).enclosingBlock? n with
    | none => rw [nesting_of_none h, nesting_of_none (up.trans h)]
    | some b =>
      by_cases inside : n ∈ walk b.attached
      · rw [nesting_of_mem coherent hn h inside,
          nesting_of_mem coherent hcr (up.trans h) (mem_walk_of_mem_parts inside below)]
      · rw [nesting_of_not_mem coherent hn h inside]
        by_cases inside' : c ∈ walk b.attached
        · rw [nesting_of_mem coherent hcr (up.trans h) inside']
          omega
        · rw [nesting_of_not_mem coherent hcr (up.trans h) inside']

theorem exists_block_of_mem_captionAround {n c : Node} (h : c ∈ x.captionAround n) :
    ∃ b, x.context.parents.enclosingBlock? n = some b ∧ c ∈ b.attached ∧
      (walk b.attached).any (·.key == n.key) = false := by
  unfold captionAround at h
  split at h
  next b found =>
    split at h
    next content caption hb =>
      have attached : b.attached = caption := by simp [Node.attached, hb, Body.attached]
      split at h
      next => cases h
      next outside =>
        rw [← attached] at h outside
        exact ⟨b, found, h, Bool.eq_false_of_not_eq_true outside⟩
    next => cases h
  next => cases h

theorem nesting_lt_of_mem_captionAround (unshared : root.Unshared)
    (looked : x.context = Context.of root) {n c : Node} (hn : n ∈ root.preorder)
    (hc : c ∈ x.captionAround n) : c ∈ root.preorder ∧ nesting root c < nesting root n := by
  have coherent := unshared.coherent
  obtain ⟨b, around, caption, outside⟩ := exists_block_of_mem_captionAround hc
  rw [looked] at around
  obtain ⟨hb, larger, block⟩ := Parents.enclosingBlock?_larger coherent hn around
  have below : c ∈ b.parts := List.mem_append_right _ caption
  have hcr := Node.mem_preorder_of_mem_parts hb below
  have up := Parents.enclosingBlock?_of_some coherent hcr (Parents.of?_eq_some unshared hb below)
  rw [block, if_neg Bool.false_ne_true] at up
  have inside : c ∈ walk b.attached := Node.mem_walk_of_mem caption
  have outside : n ∉ walk b.attached := by
    rw [← any_key_iff coherent hb hn, outside]
    exact Bool.false_ne_true
  refine ⟨hcr, ?_⟩
  rw [nesting_of_mem coherent hcr up inside, nesting_of_not_mem coherent hn around outside]
  omega

/-- What writing a node asks for belongs to the document, and what it leads to is less nested or
smaller. -/
theorem Calls.step (unshared : root.Unshared) (looked : x.context = Context.of root) {n m : Node}
    (hn : n ∈ root.preorder) (h : x.Calls n m) :
    m ∈ root.preorder ∧
      Prod.Lex (· < ·) (· < ·) (nesting root m, m.size) (nesting root n, n.size) := by
  cases h with
  | child hc =>
    obtain ⟨hm, le⟩ := nesting_le_of_mem_children unshared hn hc
    refine ⟨hm, ?_⟩
    have smaller := Node.size_lt_of_mem_parts (Node.mem_parts_of_mem_children hc)
    rcases Nat.lt_or_eq_of_le le with lt | eq
    · exact .left _ _ lt
    · rw [eq]
      exact .right _ smaller
  | caption _ hc =>
    obtain ⟨hm, lt⟩ := nesting_lt_of_mem_captionAround unshared looked hn hc
    exact ⟨hm, .left _ _ lt⟩

theorem acc_calls (unshared : root.Unshared) (looked : x.context = Context.of root) {n : Node}
    (hn : n ∈ root.preorder) : Acc (fun m n => x.Calls n m) n := by
  have lex : WellFounded (Prod.Lex (· < ·) (· < ·) : Nat × Nat → Nat × Nat → Prop) :=
    (Prod.lex Nat.lt_wfRel Nat.lt_wfRel).wf
  induction h : (nesting root n, n.size) using lex.induction generalizing n with
  | _ measure ih =>
    subst h
    refine Acc.intro n fun m calls => ?_
    obtain ⟨hm, less⟩ := calls.step unshared looked hn
    exact ih _ less hm rfl

end Manuscript.Leanpub.Export
