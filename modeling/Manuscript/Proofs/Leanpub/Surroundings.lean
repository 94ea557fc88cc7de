import Manuscript.Proofs.Leanpub.Nesting

/-!
# The surroundings of a node

Writing a node reads where the node stands: how many lists are around it, and which caption it shows
if it is an image. In a document without shared nodes both are known from the parent alone, so that
they can be followed from the root down:

* `Node.forall_mem_preorder`: what passes from every node to what is directly below it holds of all
  nodes below;
* `Parents.listDepth_of_mem_parts`: a list adds one to the depth of what is below it;
* `captionAround_of_mem_children`: the children of a block show its caption, those of an inline node
  show what the node would;
* `captionAround_of_mem_attached`: what is attached to a block shows no caption.
-/

namespace Manuscript

/-- What holds of a node and passes on from every node to what is directly below it holds of
everything below. -/
theorem Node.forall_mem_preorder {motive : Node → Prop} {n : Node} (here : motive n)
    (below : ∀ p ∈ n.preorder, motive p → ∀ c ∈ p.parts, motive c) :
    ∀ m ∈ n.preorder, motive m := by
  induction n using Node.induction with
  | step n ih =>
    intro m hm
    rcases Node.mem_preorder_iff.1 hm with rfl | ⟨c, hc, inside⟩
    · exact here
    · refine ih c hc (below n n.self_mem_preorder here c hc) (fun p hp => below p ?_) m inside
      exact Node.mem_preorder_iff.2 (.inr ⟨c, hc, hp⟩)

namespace Parents

variable {root : Node}

theorem of?_root (coherent : root.Coherent) : (ofRoot root).of? root = none := by
  cases h : (ofRoot root).of? root with
  | none => rfl
  | some p =>
    obtain ⟨hp, below⟩ := of?_sound coherent root.self_mem_preorder h
    exact absurd (Node.size_lt_of_mem_parts_of_mem hp below) (Nat.lt_irrefl _)

theorem ancestors_root (coherent : root.Coherent) : (ofRoot root).ancestors root = [] :=
  climb_of_none (of?_root coherent) _

theorem listDepth_root (coherent : root.Coherent) : (ofRoot root).listDepth root = 0 := by
  rw [listDepth, ancestors_root coherent, List.countP_nil]

/-- A list adds one to the depth of what is directly below it. -/
theorem listDepth_of_mem_parts (unshared : root.Unshared) {p c : Node} (hp : p ∈ root.preorder)
    (hc : c ∈ p.parts) :
    (ofRoot root).listDepth c =
      (ofRoot root).listDepth p + if p.kind = .list then 1 else 0 := by
  have up := ancestors_of_some unshared.coherent (Node.mem_preorder_of_mem_parts hp hc)
    (of?_eq_some unshared hp hc)
  rw [listDepth, listDepth, up, List.countP_cons]
  simp only [beq_iff_eq]

theorem enclosingBlock?_root (coherent : root.Coherent) :
    (ofRoot root).enclosingBlock? root = none := by
  rw [enclosingBlock?, ancestors_root coherent, List.find?_nil]

theorem enclosingBlock?_of_mem_parts (unshared : root.Unshared) {p c : Node}
    (hp : p ∈ root.preorder) (hc : c ∈ p.parts) :
    (ofRoot root).enclosingBlock? c =
      if p.isInline then (ofRoot root).enclosingBlock? p else some p :=
  enclosingBlock?_of_some unshared.coherent (Node.mem_preorder_of_mem_parts hp hc)
    (of?_eq_some unshared hp hc)

end Parents

namespace Node

variable {root : Node}

/-- What is directly below a node and stands in something attached to another one is attached to
that itself, or the node stands in it. -/
theorem mem_attached_or_of_mem_walk (unshared : root.Unshared) {b p c : Node}
    (hb : b ∈ root.preorder) (hp : p ∈ root.preorder) (hc : c ∈ p.parts)
    (inside : c ∈ walk b.attached) : p = b ∧ c ∈ b.attached ∨ p ∈ walk b.attached := by
  rw [walk_eq_flatMap_preorder] at inside ⊢
  obtain ⟨d, hd, inside⟩ := List.mem_flatMap.1 inside
  have hdr : d ∈ root.preorder := mem_preorder_of_mem_parts hb (List.mem_append_right _ hd)
  rcases exists_parent_of_mem_preorder inside with rfl | ⟨q, hq, below⟩
  · have same : p = b :=
      unshared.parent_unique hp hb hc (List.mem_append_right b.children hd)
    exact .inl ⟨same, hd⟩
  · have same : p = q := unshared.parent_unique hp (preorder_subset hdr hq) hc below
    exact .inr (List.mem_flatMap.2 ⟨d, hd, same ▸ hq⟩)

/-- Besides paragraphs only references have something attached, and these are inline. -/
theorem attached_eq_nil_of_block {b : Node} (block : b.isInline = false)
    (other : ∀ content caption, b.body ≠ .paragraph content caption) : b.attached = [] := by
  obtain ⟨key, body⟩ := b
  cases body with
  | paragraph content caption => exact absurd rfl (other content caption)
  | footnoteReference label definition => cases block
  | _ => rfl

/-- A node does not stand in what is attached to it. -/
theorem not_mem_walk_attached (n : Node) : n ∉ walk n.attached := by
  rw [walk_eq_flatMap_preorder]
  intro inside
  obtain ⟨d, hd, inside⟩ := List.mem_flatMap.1 inside
  have smaller : d.size < n.size := size_lt_of_mem_parts (List.mem_append_right _ hd)
  exact absurd (size_le_of_mem_preorder inside) (Nat.not_le_of_lt smaller)

/-- Where nodes are not shared no child of a node is attached to it, too. -/
theorem Unshared.not_mem_attached (unshared : root.Unshared) {p c : Node} (hp : p ∈ root.preorder)
    (hc : c ∈ p.children) : c ∉ p.attached := by
  have nodup : root.preorder.Nodup := List.Nodup.of_map _ unshared
  have below : (root.preorder.flatMap parts).Nodup :=
    (List.nodup_cons.1 ((cons_flatMap_parts_perm root).nodup_iff.2 nodup)).2
  have apart : (p.children ++ p.attached).Nodup := (List.nodup_flatMap.1 below).1 p hp
  exact fun attached => (List.nodup_append.1 apart).2.2 c hc c attached rfl

end Node

namespace Leanpub.Export

variable {root : Node} {x : Export}

theorem captionAround_of_none (looked : x.context = Context.of root) {n : Node}
    (h : (Parents.ofRoot root).enclosingBlock? n = none) : x.captionAround n = [] := by
  have none : x.context.parents.enclosingBlock? n = none := looked ▸ h
  rw [captionAround, none]

/-- The caption of the block around a node, as far as the block has one, unless the node stands in
it. -/
theorem captionAround_of_some (coherent : root.Coherent) (looked : x.context = Context.of root)
    {n b : Node} (hn : n ∈ root.preorder)
    (h : (Parents.ofRoot root).enclosingBlock? n = some b) :
    (n ∈ walk b.attached → x.captionAround n = []) ∧
      (n ∉ walk b.attached → x.captionAround n = b.attached) := by
  obtain ⟨hb, -, block⟩ := Parents.enclosingBlock?_larger coherent hn h
  have found : x.context.parents.enclosingBlock? n = some b := looked ▸ h
  have stands := any_key_iff coherent hb hn
  rw [captionAround, found]
  simp only
  split
  next content caption hb =>
    have attached : b.attached = caption := by simp [Node.attached, hb, Body.attached]
    rw [attached] at stands ⊢
    constructor
    · intro inside
      rw [if_pos (stands.2 inside)]
    · intro outside
      rw [if_neg (mt stands.1 outside)]
  next other =>
    rw [Node.attached_eq_nil_of_block block other]
    exact ⟨fun _ => rfl, fun _ => rfl⟩

theorem captionAround_root (coherent : root.Coherent) (looked : x.context = Context.of root) :
    x.captionAround root = [] :=
  captionAround_of_none looked (Parents.enclosingBlock?_root coherent)

/-- What is directly below an inline node shows what the node would. -/
theorem captionAround_of_inline (unshared : root.Unshared) (looked : x.context = Context.of root)
    {p c : Node} (hp : p ∈ root.preorder) (hc : c ∈ p.parts) (inline : p.isInline = true) :
    x.captionAround c = x.captionAround p := by
  have coherent := unshared.coherent
  have hcr := Node.mem_preorder_of_mem_parts hp hc
  have up := Parents.enclosingBlock?_of_mem_parts unshared hp hc
  rw [if_pos inline] at up
  cases h : (Parents.ofRoot root).enclosingBlock? p with
  | none => rw [captionAround_of_none looked h, captionAround_of_none looked (up.trans h)]
  | some b =>
    obtain ⟨hb, -, block⟩ := Parents.enclosingBlock?_larger coherent hp h
    have shownBy := captionAround_of_some coherent looked hp h
    have shownBy' := captionAround_of_some coherent looked hcr (up.trans h)
    by_cases inside : p ∈ walk b.attached
    · rw [shownBy.1 inside, shownBy'.1 (mem_walk_of_mem_parts inside hc)]
    · rw [shownBy.2 inside, shownBy'.2]
      intro inside'
      rcases Node.mem_attached_or_of_mem_walk unshared hb hp hc inside' with ⟨rfl, -⟩ | above
      · rw [inline] at block
        cases block
      · exact inside above

theorem captionAround_of_mem_children (unshared : root.Unshared)
    (looked : x.context = Context.of root) {p c : Node} (hp : p ∈ root.preorder)
    (hc : c ∈ p.children) :
    x.captionAround c = if p.isInline then x.captionAround p else p.attached := by
  have below := Node.mem_parts_of_mem_children hc
  split
  next inline => exact captionAround_of_inline unshared looked hp below inline
  next block =>
    have up := Parents.enclosingBlock?_of_mem_parts unshared hp below
    rw [if_neg block] at up
    have hcr := Node.mem_preorder_of_mem_parts hp below
    refine (captionAround_of_some unshared.coherent looked hcr up).2 fun inside => ?_
    rcases Node.mem_attached_or_of_mem_walk unshared hp hp below inside with ⟨-, attached⟩ | own
    · exact unshared.not_mem_attached hp hc attached
    · exact p.not_mem_walk_attached own

theorem captionAround_of_mem_attached (unshared : root.Unshared)
    (looked : x.context = Context.of root) {p c : Node} (hp : p ∈ root.preorder)
    (hc : c ∈ p.attached) :
    x.captionAround c = if p.isInline then x.captionAround p else [] := by
  have below : c ∈ p.parts := List.mem_append_right _ hc
  split
  next inline => exact captionAround_of_inline unshared looked hp below inline
  next block =>
    have up := Parents.enclosingBlock?_of_mem_parts unshared hp below
    rw [if_neg block] at up
    have hcr := Node.mem_preorder_of_mem_parts hp below
    exact (captionAround_of_some unshared.coherent looked hcr up).1 (Node.mem_walk_of_mem hc)

end Leanpub.Export

end Manuscript
