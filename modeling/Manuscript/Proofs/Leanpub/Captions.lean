import Manuscript.Proofs.Leanpub.Surroundings
import Manuscript.Proofs.Leanpub.Termination

/-!
# The captions of images

Which caption an image shows is looked up from the image upwards. Seen from above, it is decided
where the way down to the image enters the block around it, however many inline nodes and inline
definitions of footnotes it passes through after that:

* `InlineBelow`: a node that is reached from another one through inline nodes alone;
* `Encloses`: the nearest block around a node, and where it is entered;
* `exists_encloses`, `Encloses.unique`: in a document every inline node has one such block, entered
  at one place;
* `captionAround_of_encloses`: what an image shows by that place;
* `images_show_captions`: so images are written.
-/

namespace Manuscript

namespace Node

/-- The node is `top` or stands below it, and all nodes from `top` down to it are inline. -/
inductive InlineBelow (top : Node) : Node → Prop where
  | here : InlineBelow top top
  | down {m n : Node} (above : InlineBelow top m) (inline : m.isInline = true)
      (below : n ∈ m.parts) : InlineBelow top n

/-- The block is the nearest one around a node, and the way from it down to the node begins with
`entry`. -/
structure Encloses (root block entry n : Node) : Prop where
  mem : block ∈ root.preorder
  isBlock : block.isInline = false
  enters : entry ∈ block.parts
  inline : InlineBelow entry n

variable {root block entry n : Node}

theorem InlineBelow.mem_preorder {top : Node} (h : InlineBelow top n)
    (inside : top ∈ root.preorder) : n ∈ root.preorder := by
  induction h with
  | here => exact inside
  | down _ _ below ih => exact mem_preorder_of_mem_parts ih below

/-- A node of a document is the document itself or has a block around it. -/
theorem exists_encloses (document : root.isInline = false) :
    ∀ n ∈ root.preorder, n = root ∨ ∃ block entry, root.Encloses block entry n := by
  refine forall_mem_preorder
    (motive := fun n => n = root ∨ ∃ block entry, root.Encloses block entry n) (.inl rfl) ?_
  intro p hp above c hc
  right
  cases inline : p.isInline with
  | false => exact ⟨p, c, hp, inline, hc, .here⟩
  | true =>
    rcases above with rfl | ⟨block, entry, encloses⟩
    · rw [document] at inline
      cases inline
    · exact ⟨block, entry, encloses.mem, encloses.isBlock, encloses.enters,
        encloses.inline.down inline hc⟩

/-- Where nodes are not shared there is one nearest block, and it is entered at one place. -/
theorem Encloses.unique (unshared : root.Unshared) {block' entry' : Node}
    (h : root.Encloses block entry n) (h' : root.Encloses block' entry' n) :
    block = block' ∧ entry = entry' := by
  obtain ⟨hb, isBlock, enters, inline⟩ := h
  obtain ⟨hb', isBlock', enters', inline'⟩ := h'
  have inside : entry ∈ root.preorder := mem_preorder_of_mem_parts hb enters
  have inside' : entry' ∈ root.preorder := mem_preorder_of_mem_parts hb' enters'
  -- A step of one way goes with a step of the other, since both come from the only parent.
  induction inline with
  | here =>
    cases inline' with
    | here => exact ⟨unshared.parent_unique hb hb' enters enters', rfl⟩
    | down above inline below =>
      have same := unshared.parent_unique hb (above.mem_preorder inside') enters below
      rw [same, inline] at isBlock
      cases isBlock
  | down above inline below ih =>
    cases inline' with
    | here =>
      have same := unshared.parent_unique hb' (above.mem_preorder inside) enters' below
      rw [same, inline] at isBlock'
      cases isBlock'
    | down above' inline' below' =>
      obtain rfl := unshared.parent_unique (above.mem_preorder inside)
        (above'.mem_preorder inside') below below'
      exact ih above'

end Node

namespace Leanpub.Export

variable {root block entry n : Node} {x : Export}

/-- Inline nodes do not come between an image and the caption that it shows. -/
theorem captionAround_of_inlineBelow (unshared : root.Unshared)
    (looked : x.context = Context.of root) (inside : entry ∈ root.preorder)
    (inline : entry.InlineBelow n) : x.captionAround n = x.captionAround entry := by
  induction inline with
  | here => rfl
  | down above inline below ih =>
    rw [captionAround_of_inline unshared looked (above.mem_preorder inside) below inline, ih]

/-- Entered through its children, a block shows what is attached to it, and entered otherwise it shows
nothing. -/
theorem captionAround_of_encloses (unshared : root.Unshared) (looked : x.context = Context.of root)
    (encloses : root.Encloses block entry n) :
    (entry ∈ block.children → x.captionAround n = block.attached) ∧
      (entry ∈ block.attached → x.captionAround n = []) := by
  obtain ⟨hb, isBlock, enters, inline⟩ := encloses
  have inside := Node.mem_preorder_of_mem_parts hb enters
  rw [captionAround_of_inlineBelow unshared looked inside inline]
  constructor
  · intro child
    rw [captionAround_of_mem_children unshared looked hb child, isBlock]
    rfl
  · intro attached
    rw [captionAround_of_mem_attached unshared looked hb attached, isBlock]
    rfl

/-- The text of an image: the caption in brackets and the address in parentheses. The children of
its link are rendered first, then the caption. -/
def pictured (x : Export) (n : Node) (address : String) (caption : Outcome RenderError String) :
    Outcome RenderError String := do
  let _ ← n.children.mapM x.transcode
  return "![" ++ (← caption) ++ "](" ++ address ++ ")"

/-- The caption in the text of an image, by the block around it and where that is entered. -/
structure Captioned (x : Export) (block entry n : Node) (address : String) : Prop where
  shown : ∀ content caption, block.body = .paragraph content caption → entry ∈ content →
    x.transcode n = x.pictured n address (renderNodes x.transcode caption)
  within : ∀ content caption, block.body = .paragraph content caption → entry ∈ caption →
    x.transcode n = x.pictured n address (pure "")
  /-- No paragraph with a caption is entered through its content. -/
  elsewhere : (∀ content caption, block.body = .paragraph content caption →
    caption = [] ∨ entry ∉ content) → x.transcode n = x.pictured n address (pure "")

theorem transcode_image (unshared : root.Unshared) (looked : x.context = Context.of root)
    (ruled : x.rules.find? .link = some .link) (hn : n ∈ root.preorder) {target : Target}
    {content : List Node} {title : Option String} (link : n.body = .link target content title)
    (image : linkUse x.options target = .image) :
    x.transcode n = x.pictured n (imageAddress x.environment target)
      (renderNodes x.transcode (x.captionAround n)) := by
  have kind : n.kind = .link := by rw [Node.kind, link, Body.kind]
  rw [transcode_eq unshared looked hn, pictured]
  congr 1
  funext fragments
  exact convert_image (kind ▸ ruled) link image _ fragments

theorem renderNodes_nil (render : Node → Outcome RenderError String) :
    renderNodes render [] = pure "" := rfl

theorem captioned_of_encloses (unshared : root.Unshared) (looked : x.context = Context.of root)
    (encloses : root.Encloses block entry n) {address : String}
    (written : x.transcode n =
      x.pictured n address (renderNodes x.transcode (x.captionAround n))) :
    x.Captioned block entry n address := by
  obtain ⟨child, attached⟩ := captionAround_of_encloses unshared looked encloses
  have bare (none : x.captionAround n = []) : x.transcode n = x.pictured n address (pure "") := by
    rw [written, none, renderNodes_nil]
  constructor
  case shown =>
    intro content caption paragraph enters
    have shows := child (by simpa [Node.children, paragraph, Body.children] using enters)
    have same : block.attached = caption := by simp [Node.attached, paragraph, Body.attached]
    rw [written, shows, same]
  case within =>
    intro content caption paragraph enters
    apply bare
    exact attached (by simpa [Node.attached, paragraph, Body.attached] using enters)
  case elsewhere =>
    intro apart
    apply bare
    rcases List.mem_append.1 encloses.enters with enters | enters
    · rw [child enters]
      by_cases paragraph : ∃ content caption, block.body = .paragraph content caption
      · obtain ⟨content, caption, paragraph⟩ := paragraph
        have among : entry ∈ content := by
          simpa [Node.children, paragraph, Body.children] using enters
        have none := (apart content caption paragraph).resolve_right (not_not.2 among)
        simpa [Node.attached, paragraph, Body.attached] using none
      · apply Node.attached_eq_nil_of_block encloses.isBlock
        intro content caption same
        exact paragraph ⟨content, caption, same⟩
    · exact attached enters

/-- **An image shows the caption of the nearest block around it exactly if that is a paragraph that the
way down to the image enters through its content.** -/
theorem images_show_captions (document : root.kind = .document) (unshared : root.Unshared)
    (options : LeanpubOptions) (environment : Environment) {rules : RuleTable}
    (ruled : rules.find? .link = some .link) (hn : n ∈ root.preorder) {target : Target}
    {content : List Node} {title : Option String} (link : n.body = .link target content title)
    (image : linkUse options target = .image) :
    ∃ block entry, root.Encloses block entry n ∧
      (∀ block' entry', root.Encloses block' entry' n → block' = block ∧ entry' = entry) ∧
      Captioned ⟨options, rules, environment, Context.of root⟩ block entry n
        (imageAddress environment target) := by
  have isBlock : root.isInline = false := by rw [Node.isInline, document]; rfl
  rcases Node.exists_encloses isBlock n hn with rfl | ⟨block, entry, encloses⟩
  · rw [Node.kind, link] at document
    cases document
  · refine ⟨block, entry, encloses, ?_, ?_⟩
    · intro block' entry' encloses'
      exact encloses'.unique unshared encloses
    · apply captioned_of_encloses unshared rfl encloses
      exact transcode_image unshared rfl ruled hn link image

/-- A picture in the inline definition of a footnote, and one in the caption of the paragraph. -/
def gallery : Node :=
  ⟨0, .document
    [⟨1, .paragraph
      [⟨2, .styled .emphasis [⟨3, .footnoteReference none (some [picture 4 "a"])⟩]⟩]
      [⟨5, .text "A"⟩, ⟨6, .styled .strong [picture 7 "b"]⟩]⟩]⟩

theorem gallery_unshared : gallery.Unshared := by
  simp [Node.Unshared, gallery, picture, Node.preorder_eq, Node.parts, Node.body, Body.parts,
    Body.children, Body.attached, Node.key]

theorem gallery_shows_captions :
    gallery.kind = .document ∧ gallery.Unshared ∧ RuleTable.leanpub.find? .link = some .link ∧
      picture 4 "a" ∈ gallery.preorder ∧ linkUse .standard ⟨"file", "a.png"⟩ = .image ∧
    ∃ block entry, gallery.Encloses block entry (picture 4 "a") ∧
      (∀ block' entry', gallery.Encloses block' entry' (picture 4 "a") →
        block' = block ∧ entry' = entry) ∧
      Captioned ⟨.standard, .leanpub, ⟨"/home", "/"⟩, Context.of gallery⟩ block entry
        (picture 4 "a") (imageAddress ⟨"/home", "/"⟩ ⟨"file", "a.png"⟩) := by
  have inside : picture 4 "a" ∈ gallery.preorder := by
    simp [gallery, picture, Node.preorder_eq, Node.parts, Node.body, Body.parts, Body.children,
      Body.attached]
  have image : linkUse .standard ⟨"file", "a.png"⟩ = .image := by decide +kernel
  exact ⟨rfl, gallery_unshared, rfl, inside, image,
    images_show_captions rfl gallery_unshared .standard ⟨"/home", "/"⟩ rfl inside rfl image⟩

end Leanpub.Export

end Manuscript
