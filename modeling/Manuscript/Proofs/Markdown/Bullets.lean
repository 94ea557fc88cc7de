import Manuscript.Proofs.Leanpub.Surroundings
import Manuscript.Proofs.Leanpub.Termination

/-!
# Bullets by depth

How deep a list stands is found by climbing from parent to parent. Seen from the document it is the
number of lists on the way down, whatever else that way leads through:

* `Node.Descent`: a way down from a root, with the nodes that it passes;
* `Descent.ancestors`: where nodes are not shared, what a climb meets is that way, so that there is
  no other one;
* `listing_bullets`: the items of a list that is not numbered all have the same bullet;
* `Bulleted`: a list is written with that bullet, be it in generic Markdown or in a book;
* `bullets_by_enclosing_lists`: which bullet that is.
-/

namespace Manuscript

/-- A way from the root down to a node. What it passes is listed from the node upwards: the parent
of the node comes first and the root last. -/
inductive Node.Descent (root : Node) : List Node → Node → Prop where
  | root : Descent root [] root
  | down {above : List Node} {p c : Node} (way : Descent root above p) (below : c ∈ p.parts) :
      Descent root (p :: above) c

namespace Node.Descent

variable {root n : Node} {above : List Node}

theorem mem_preorder (way : root.Descent above n) : n ∈ root.preorder := by
  induction way with
  | root => exact root.self_mem_preorder
  | down _ below ih => exact mem_preorder_of_mem_parts ih below

theorem exists_of_mem : ∀ n ∈ root.preorder, ∃ above, root.Descent above n :=
  forall_mem_preorder ⟨[], .root⟩ fun _ _ ⟨_, way⟩ _ below => ⟨_, way.down below⟩

/-- The ancestors of a node are the nodes on its way down. -/
theorem ancestors (unshared : root.Unshared) (way : root.Descent above n) :
    (Parents.ofRoot root).ancestors n = above := by
  induction way with
  | root => exact Parents.ancestors_root unshared.coherent
  | down way below ih =>
    have inside := way.mem_preorder
    have parent := Parents.of?_eq_some unshared inside below
    rw [Parents.ancestors_of_some unshared.coherent (mem_preorder_of_mem_parts inside below) parent,
      ih]

theorem listDepth (unshared : root.Unshared) (way : root.Descent above n) :
    (Parents.ofRoot root).listDepth n = above.countP fun a => a.kind == .list := by
  rw [Parents.listDepth, way.ancestors unshared]

theorem enclosingBlock? (unshared : root.Unshared) (way : root.Descent above n) :
    (Parents.ofRoot root).enclosingBlock? n = above.find? fun a => !a.isInline := by
  rw [Parents.enclosingBlock?, way.ancestors unshared]

end Node.Descent

namespace Markdown

/-- Items behind a bullet that all of them share: the bullet and a space stand before the first line
of an item, and two spaces before its other lines. -/
def bulleted (bullet : Char) (tight : Bool) (items : List String) : String :=
  (if tight then "\n" else "\n\n").intercalate
    (items.map fun item => String.singleton bullet ++ " " ++ Text.indentContinuation 2 item)

theorem listing_bullets (o : MarkdownOptions) (depth : Nat) (tight : Bool) (items : List String) :
    listing o depth .bullets tight items = bulleted (o.bullet depth) tight items := by
  have wide : ((String.singleton (o.bullet depth) ++ " ").length : Int) = 2 := by
    rw [String.length_append, String.length_singleton]
    rfl
  have same :
      (items.mapIdx fun position item => markedItem (marker o depth .bullets position) item) =
        items.map fun item =>
          String.singleton (o.bullet depth) ++ " " ++ Text.indentContinuation 2 item := by
    refine List.ext_getElem (by simp) fun i _ _ => ?_
    simp only [List.getElem_mapIdx, List.getElem_map, marker, markedItem, wide]
  rw [listing, bulleted, same]

/-- The bullets are used in turn and then from the first one on. -/
theorem getElem?_bullets (o : MarkdownOptions) (depth : Nat) :
    o.bullets[depth % o.bullets.length]? = some (o.bullet depth) :=
  List.getElem?_eq_getElem _

/-- A list that is not numbered is written with its items, all behind the bullet for a depth, and it
fails only if one of them does. -/
def Bulleted (o : MarkdownOptions) (depth : Nat) (render : Node → Outcome RenderError String)
    (n : Node) : Prop :=
  ∀ tight items, n.body = .list .bullets tight items →
    ∃ bullet, o.bullets[depth % o.bullets.length]? = some bullet ∧
      (render n).result = (items.mapM render).result.map (bulleted bullet tight)

theorem convert_bullets (o : MarkdownOptions) (context : Context) {n : Node} {tight : Bool}
    {items : List Node} (list : n.body = .list .bullets tight items) (fragments : List String) :
    (convert o context n fragments).result =
      .ok (bulleted (o.bullet (context.parents.listDepth n)) tight fragments) := by
  rw [← listing_bullets, convert, list]
  rfl

theorem bulleted_transcode (o : MarkdownOptions) (context : Context) (n : Node) :
    Bulleted o (context.parents.listDepth n) (transcode o context) n := by
  intro tight items list
  refine ⟨_, getElem?_bullets o _, ?_⟩
  have below : n.children = items := by rw [Node.children, list, Body.children]
  rw [transcode, Node.fold_eq, below]
  exact Outcome.bind_result_map (convert_bullets o context list)

end Markdown

namespace Leanpub.Export

variable {root : Node} {x : Export}

theorem bulleted_transcode (unshared : root.Unshared) (looked : x.context = Context.of root)
    (generic : ∀ rule, x.rules.find? .list = some rule → rule = .generic) {n : Node}
    (hn : n ∈ root.preorder) :
    Markdown.Bulleted x.options.toMarkdownOptions (x.context.parents.listDepth n)
      x.transcode n := by
  intro tight items list
  refine ⟨_, Markdown.getElem?_bullets _ _, ?_⟩
  have below : n.children = items := by rw [Node.children, list, Body.children]
  have ruled : (x.rules.find? n.kind).getD .generic = .generic := by
    rw [Node.kind, list, Body.kind]
    cases h : x.rules.find? .list with
    | none => rfl
    | some rule => exact generic rule h
  rw [transcode_eq unshared looked hn, below]
  refine Outcome.bind_result_map fun fragments => ?_
  rw [convert_result, ruled]
  exact Markdown.convert_bullets _ _ list fragments

/-- Where a node stands by the one way that leads to it, and what follows for its bullets if it is a
list. -/
structure StandsBelow (o : MarkdownOptions) (x : Export) (root : Node) (above : List Node)
    (n : Node) : Prop where
  way : root.Descent above n
  only : ∀ above', root.Descent above' n → above' = above
  depth : (Parents.ofRoot root).listDepth n = above.countP fun a => a.kind == .list
  block : (Parents.ofRoot root).enclosingBlock? n = above.find? fun a => !a.isInline
  plain : Markdown.Bulleted o (above.countP fun a => a.kind == .list)
    (Markdown.transcode o (Context.of root)) n
  book : Markdown.Bulleted x.options.toMarkdownOptions (above.countP fun a => a.kind == .list)
    x.transcode n

/-- **The depth of a list is the number of lists on the way down to it, and its bullets are those
for that depth**, in generic Markdown and in a book that writes lists as generic Markdown. -/
theorem bullets_by_enclosing_lists (root : Node) (unshared : root.Unshared) (o : MarkdownOptions)
    (options : LeanpubOptions) (environment : Environment) {rules : RuleTable}
    (generic : ∀ rule, rules.find? .list = some rule → rule = .generic) {n : Node}
    (hn : n ∈ root.preorder) :
    ∃ above, StandsBelow o ⟨options, rules, environment, Context.of root⟩ root above n := by
  obtain ⟨above, way⟩ := Node.Descent.exists_of_mem n hn
  have depth := way.listDepth unshared
  refine ⟨above, way, fun above' way' => ?_, depth, way.enclosingBlock? unshared, ?_, ?_⟩
  · rw [← way.ancestors unshared, way'.ancestors unshared]
  · rw [← depth]
    exact Markdown.bulleted_transcode o (Context.of root) n
  · rw [← depth]
    exact bulleted_transcode unshared rfl generic hn

/-- A list in a quotation in an item, one in the caption of a paragraph in that list, and one in the
inline definition of a footnote in that caption. -/
def outline : Node :=
  let third : Node := ⟨10, .list .bullets true [⟨11, .listItem none []⟩]⟩
  let note : Node := ⟨8, .styled .strong [⟨9, .footnoteReference none (some [third])⟩]⟩
  let second : Node := ⟨6, .list .bullets false [⟨7, .listItem none [note]⟩]⟩
  ⟨0, .document
    [⟨1, .list (.numbers 1) true
      [⟨2, .listItem none [⟨3, .blockQuote [⟨4, .paragraph [⟨5, .text "a"⟩] [second]⟩]⟩]⟩]⟩]⟩

theorem outline_unshared : outline.Unshared := by
  simp [Node.Unshared, outline, Node.preorder_eq, Node.parts, Node.body, Body.parts, Body.children,
    Body.attached, Node.key]

theorem outline_bullets :
    outline.Unshared ∧ (∀ rule, RuleTable.leanpub.find? .list = some rule → rule = .generic) ∧
      ⟨10, .list .bullets true [⟨11, .listItem none []⟩]⟩ ∈ outline.preorder ∧
    ∃ above, StandsBelow .standard ⟨.standard, .leanpub, ⟨"/home", "/"⟩, Context.of outline⟩ outline
      above ⟨10, .list .bullets true [⟨11, .listItem none []⟩]⟩ := by
  have generic : ∀ rule, RuleTable.leanpub.find? .list = some rule → rule = .generic := by
    intro rule ruled
    cases ruled
  have inside : ⟨10, .list .bullets true [⟨11, .listItem none []⟩]⟩ ∈ outline.preorder := by
    simp [outline, Node.preorder_eq, Node.parts, Node.body, Body.parts, Body.children,
      Body.attached]
  exact ⟨outline_unshared, generic, inside,
    bullets_by_enclosing_lists outline outline_unshared .standard .standard _ generic inside⟩

end Leanpub.Export

end Manuscript
