import Manuscript.Proofs.Footnote.Arrangement
import Manuscript.Proofs.Leanpub.Surroundings
import Manuscript.Proofs.Leanpub.Totality

/-!
# Books with moved definitions

A definition leaves nothing at its place, and every other node has the same surroundings wherever
definitions stand among the children of a document. So a book stays the same when they are moved:

* `transcode_rearranged`: every node below the document becomes what it was before;
* `transcode_document`: the body of a document is joined from what its children become, and
  definitions take no part in it;
* `render_rearranged`: where every label is defined once and reached from the text, the book is the
  same.
-/

namespace Manuscript

theorem Context.labelFor_congr {context context' : Context}
    (footnotes : context'.footnotes = context.footnotes) (key : Footnote.Key) :
    context'.labelFor key = context.labelFor key := by
  cases key with
  | label label => rfl
  | anonymous reference => simp only [Context.labelFor, Context.numberFor, footnotes]

/-- Of the context generic Markdown reads the footnotes and the number of lists around a node. -/
theorem Markdown.convert_congr_context (o : MarkdownOptions) {context context' : Context} {n : Node}
    (footnotes : context'.footnotes = context.footnotes)
    (depth : context'.parents.listDepth n = context.parents.listDepth n) (fragments : List String) :
    convert o context' n fragments = convert o context n fragments := by
  have label := Context.labelFor_congr footnotes
  obtain ⟨key, body⟩ := n
  cases body with
  | list marking tight items => simp only [convert, Node.body, depth]
  | footnoteReference label' definition => simp only [convert, Node.body, label, Node.key]
  | _ => rfl

namespace Leanpub.Export

open Footnote Outcome

variable {root root' : Node} {x x' : Export}

/-- A node of a book is written in the same way in other surroundings if it finds there what it
reads: the footnotes, the lists around it, and the caption that it shows. -/
theorem convert_congr_surroundings {n : Node} (options : x'.options = x.options)
    (rules : x'.rules = x.rules) (environment : x'.environment = x.environment)
    (given : ∀ name write, x.rules.find? n.kind ≠ some (.own name write))
    (footnotes : x'.context.footnotes = x.context.footnotes)
    (depth : x'.context.parents.listDepth n = x.context.parents.listDepth n)
    (caption : x'.captionAround n = x.captionAround n)
    (renderCaption : List Node → Outcome RenderError String) (fragments : List String) :
    x'.convert renderCaption n fragments = x.convert renderCaption n fragments := by
  have generic : x'.generic n fragments = x.generic n fragments := by
    rw [Export.generic, Export.generic, options]
    exact Markdown.convert_congr_context _ footnotes depth fragments
  have drop : ∀ reason, x'.drop n reason = x.drop n reason := fun reason => by
    rw [Export.drop, Export.drop, options]
  have link : ∀ target description, x'.link renderCaption n target description =
      x.link renderCaption n target description := fun target description => by
    simp only [Export.link, options, environment, caption, drop]
  have apply : ∀ rule, (∀ name write, rule ≠ .own name write) →
      x'.apply renderCaption rule n fragments = x.apply renderCaption rule n fragments := by
    intro rule given
    cases rule with
    | heading => simp only [Export.apply, generic]
    | suppress => exact drop _
    | link => simp only [Export.apply, link]
    | footnoteReference => simp only [Export.apply, Context.labelFor_congr footnotes]
    | generic => exact generic
    | own name write => exact absurd rfl (given name write)
    | _ => rfl
  unfold convert ruleFor
  rw [rules]
  cases rule : x.rules.find? n.kind with
  | none =>
    simp only [bind_assoc, pure_bind]
    exact bind_congr fun _ => apply .generic fun _ _ => Rule.noConfusion
  | some r =>
    simp only [pure_bind]
    exact apply r fun name write own => given name write (by rw [rule, own])

/-- A book has no rules but those of the library. -/
theorem find?_leanpub_ne_own (k : Kind) (name : String)
    (write : Context → Node → List String → String) :
    RuleTable.leanpub.find? k ≠ some (.own name write) := by
  cases k <;> exact nofun

/-- What is directly below a node of a document stands in one of the document's children. -/
theorem mem_below_of_mem_parts (document : root.kind = .document) {p c : Node}
    (hp : p ∈ root.preorder) (hc : c ∈ p.parts) : c ∈ root.children.flatMap Node.preorder := by
  have smaller := Node.size_lt_of_mem_parts_of_mem hp hc
  rcases Node.mem_preorder_iff.1 (Node.mem_preorder_of_mem_parts hp hc) with rfl | ⟨d, hd, inside⟩
  · exact absurd smaller (Nat.lt_irrefl _)
  · rw [Node.parts_of_document document] at hd
    exact List.mem_flatMap.2 ⟨d, hd, inside⟩

/-- A node that stands below both documents has the same surroundings in them. -/
structure SameSurroundings (root root' : Node) (x x' : Export) (n : Node) : Prop where
  mem : n ∈ root.preorder
  mem' : n ∈ root'.preorder
  depth : (Parents.ofRoot root').listDepth n = (Parents.ofRoot root).listDepth n
  caption : x'.captionAround n = x.captionAround n

/-- The children of a document have no list and no caption around them. -/
theorem surroundings_of_child (document : root.kind = .document) (unshared : root.Unshared)
    (looked : x.context = Context.of root) {c : Node} (hc : c ∈ root.children) :
    c ∈ root.preorder ∧ (Parents.ofRoot root).listDepth c = 0 ∧ x.captionAround c = [] := by
  have below := Node.mem_parts_of_mem_children hc
  refine ⟨Node.mem_preorder_of_mem_parts root.self_mem_preorder below, ?_, ?_⟩
  · rw [Parents.listDepth_of_mem_parts unshared root.self_mem_preorder below,
      Parents.listDepth_root unshared.coherent, document]
    rfl
  · rw [captionAround_of_mem_children unshared looked root.self_mem_preorder hc]
    obtain ⟨children, hb⟩ := Node.exists_body_of_document document
    simp [Node.isInline, document, Kind.isInline, Node.attached, hb, Body.attached]

theorem SameSurroundings.part (unshared : root.Unshared) (unshared' : root'.Unshared)
    (looked : x.context = Context.of root) (looked' : x'.context = Context.of root') {p c : Node}
    (h : SameSurroundings root root' x x' p) (hc : c ∈ p.parts) :
    SameSurroundings root root' x x' c where
  mem := Node.mem_preorder_of_mem_parts h.mem hc
  mem' := Node.mem_preorder_of_mem_parts h.mem' hc
  depth := by
    rw [Parents.listDepth_of_mem_parts unshared h.mem hc,
      Parents.listDepth_of_mem_parts unshared' h.mem' hc, h.depth]
  caption := by
    rcases List.mem_append.1 hc with child | attached
    · rw [captionAround_of_mem_children unshared looked h.mem child,
        captionAround_of_mem_children unshared' looked' h.mem' child, h.caption]
    · rw [captionAround_of_mem_attached unshared looked h.mem attached,
        captionAround_of_mem_attached unshared' looked' h.mem' attached, h.caption]

theorem sameSurroundings (h : Rearranged root root') (unshared : root.Unshared)
    (unshared' : root'.Unshared) (looked : x.context = Context.of root)
    (looked' : x'.context = Context.of root') {n : Node}
    (hn : n ∈ root.children.flatMap Node.preorder) : SameSurroundings root root' x x' n := by
  obtain ⟨c, hc, inside⟩ := List.mem_flatMap.1 hn
  refine Node.forall_mem_preorder ?_ (fun p _ same d hd => ?_) n inside
  · obtain ⟨mem, depth, caption⟩ := surroundings_of_child h.document unshared looked hc
    obtain ⟨mem', depth', caption'⟩ :=
      surroundings_of_child h.document' unshared' looked' (h.moved.mem_iff.2 hc)
    exact ⟨mem, mem', depth'.trans depth.symm, caption'.trans caption.symm⟩
  · exact same.part unshared unshared' looked looked' hd

/-- What the caption of a node holds stands below the document. -/
theorem mem_below_of_mem_captionAround (document : root.kind = .document) (unshared : root.Unshared)
    (looked : x.context = Context.of root) {n c : Node} (hn : n ∈ root.preorder)
    (hc : c ∈ x.captionAround n) : c ∈ root.children.flatMap Node.preorder := by
  obtain ⟨b, around, attached, -⟩ := exists_block_of_mem_captionAround hc
  rw [looked] at around
  have hb := (Parents.enclosingBlock?_larger unshared.coherent hn around).1
  exact mem_below_of_mem_parts document hb (List.mem_append_right _ attached)

/-- Every node below the document becomes what it was before the definitions were moved. -/
theorem transcode_rearranged (h : Rearranged root root') (unshared : root.Unshared)
    (unshared' : root'.Unshared) (looked : x.context = Context.of root)
    (looked' : x'.context = Context.of root') (rules : x.rules = .leanpub)
    (options : x'.options = x.options) (rules' : x'.rules = x.rules)
    (environment : x'.environment = x.environment)
    (footnotes : Index.ofRoot root' = Index.ofRoot root) {n : Node}
    (hn : n ∈ root.children.flatMap Node.preorder) : x'.transcode n = x.transcode n := by
  have same := sameSurroundings h unshared unshared' looked looked' hn
  induction acc_calls unshared looked same.mem with
  | intro n _ ih =>
    rw [transcode_eq unshared looked same.mem, transcode_eq unshared' looked' same.mem']
    have written : x'.convert (renderNodes x.transcode) n =
        x.convert (renderNodes x.transcode) n := by
      refine funext (convert_congr_surroundings options rules' environment ?_ ?_ ?_ same.caption _)
      · rw [rules]
        exact find?_leanpub_ne_own _
      · rw [looked, looked']
        exact footnotes
      · rw [looked, looked']
        exact same.depth
    rw [← written]
    refine recursion_congr (fun c hc => ?_) fun shows c hc => ?_
    · have below := mem_below_of_mem_parts h.document same.mem (Node.mem_parts_of_mem_children hc)
      exact ih c (.child hc) below (sameSurroundings h unshared unshared' looked looked' below)
    · have shows : x.ShowsCaption n := by simpa only [ShowsCaption, options, rules'] using shows
      rw [same.caption] at hc
      have below := mem_below_of_mem_captionAround h.document unshared looked same.mem hc
      exact ih c (.caption shows hc) below
        (sameSurroundings h unshared unshared' looked looked' below)

/-- A definition leaves nothing at its place. -/
theorem text_of_definition (unshared : root.Unshared) (looked : x.context = Context.of root)
    (rules : x.rules = .leanpub) {n : Node} (hn : n ∈ root.preorder)
    (kind : n.kind = .footnoteDefinition) {text : String} (h : (x.transcode n).result = .ok text) :
    text = "" := by
  rw [transcode_eq unshared looked hn] at h
  obtain ⟨fragments, -, h⟩ := bind_result_eq_ok_iff.1 h
  rw [convert_result, rules, kind] at h
  cases h
  rfl

/-- Definitions take no part in the body that the children of a document are joined to. -/
theorem joinBlocks_filter {text : Node → String} {nodes : List Node}
    (nothing : ∀ n ∈ nodes, n.kind = .footnoteDefinition → text n = "") :
    Text.joinBlocks ((nodes.filter (·.kind ≠ .footnoteDefinition)).map text) =
      Text.joinBlocks (nodes.map text) := by
  unfold Text.joinBlocks Text.joinNonempty
  congr 1
  induction nodes with
  | nil => rfl
  | cons n nodes ih =>
    have rest := ih fun m hm => nothing m (List.mem_cons_of_mem n hm)
    by_cases kind : n.kind = .footnoteDefinition
    · have empty : text n = "" := nothing n List.mem_cons_self kind
      rw [List.filter_cons_of_neg (by simpa using kind), rest]
      simp [empty]
    · rw [List.filter_cons_of_pos (by simpa using kind), List.map_cons, List.map_cons,
        List.filter_cons, List.filter_cons, rest]

theorem joinBlocks_rearranged (h : Rearranged root root') {text : Node → String}
    (nothing : ∀ n ∈ root.children, n.kind = .footnoteDefinition → text n = "") :
    Text.joinBlocks (root'.children.map text) = Text.joinBlocks (root.children.map text) :=
  calc Text.joinBlocks (root'.children.map text)
      = Text.joinBlocks ((root'.children.filter (·.kind ≠ .footnoteDefinition)).map text) :=
        (joinBlocks_filter fun n hn => nothing n (h.moved.mem_iff.1 hn)).symm
    _ = Text.joinBlocks ((root.children.filter (·.kind ≠ .footnoteDefinition)).map text) := by
        rw [h.text]
    _ = Text.joinBlocks (root.children.map text) := joinBlocks_filter nothing

/-- The body of a document is joined from what its children become. -/
theorem transcode_document (document : root.kind = .document) (unshared : root.Unshared)
    (looked : x.context = Context.of root) (rules : x.rules = .leanpub)
    (written : ∀ c ∈ root.children, ∃ text, (x.transcode c).result = .ok text) :
    (x.transcode root).result =
      .ok (Text.joinBlocks (root.children.map fun c => textOf (x.transcode c))) := by
  have children := mapM_result_textOf written
  obtain ⟨content, hb⟩ := Node.exists_body_of_document document
  rw [transcode_eq unshared looked root.self_mem_preorder, bind_result_of_ok children,
    convert_result, rules, document]
  simp only [apply, Export.generic, Markdown.convert, hb]
  rfl

/-- The contents of the footnote section stand below the document. -/
theorem mem_below_of_mem_entries (document : root.kind = .document) (coherent : root.Coherent)
    {entry : Entry} (he : entry ∈ (Index.ofRoot root).entries) {n : Node} (hn : n ∈ entry.content) :
    n ∈ root.children.flatMap Node.preorder := by
  obtain ⟨_, _, _, content⟩ := (Index.ofRoot_faithful coherent).mem_entries_iff.1 he
  obtain ⟨p, hp, below⟩ := exists_parent_of_mem_contentOf content hn
  exact mem_below_of_mem_parts document hp below

/-- **A book stays the same when definitions are moved** among the children of its document, if no
label is defined twice and all are reached from the text. -/
theorem render_rearranged (root root' : Node) (h : Rearranged root root') (unshared : root.Unshared)
    (unshared' : root'.Unshared) (distinct : (root.definitions.map Prod.fst).Nodup)
    (reached : ∀ label, Defined root label → Reached root (.label label)) (options : LeanpubOptions)
    (lenient : options.failOnDropped = false) (environment : Environment) :
    ∃ text, (Leanpub.render options .leanpub environment root).result = .ok text ∧
      (Leanpub.render options .leanpub environment root').result = .ok text := by
  let x : Export := ⟨options, .leanpub, environment, Context.of root⟩
  let x' : Export := ⟨options, .leanpub, environment, Context.of root'⟩
  have footnotes := Index.ofRoot_rearranged h unshared.coherent distinct reached
  have same : ∀ n ∈ root.children.flatMap Node.preorder, x'.transcode n = x.transcode n :=
    fun n hn => transcode_rearranged h unshared unshared' (rfl : x.context = Context.of root)
      (rfl : x'.context = Context.of root') rfl rfl rfl rfl footnotes hn
  obtain ⟨text, rendered⟩ :
      ∃ text, (Leanpub.render options .leanpub environment root).result = .ok text :=
    exists_text_of_inForce h.document unshared lenient fun r written _ =>
      inForce_of_distinct distinct (written.mem_preorder unshared rfl)
  refine ⟨text, rendered, ?_⟩
  rw [render_result] at rendered ⊢
  -- All children are written, in the one document as in the other.
  have child : ∀ c ∈ root.children, c ∈ root.children.flatMap Node.preorder := fun c hc =>
    List.mem_flatMap.2 ⟨c, hc, c.self_mem_preorder⟩
  have written : ∀ c ∈ root.children, ∃ text, (x.transcode c).result = .ok text := fun c hc =>
    written_of_render unshared rfl rendered (.call .document (.child hc))
  have written' : ∀ c ∈ root'.children, ∃ text, (x'.transcode c).result = .ok text := by
    intro c hc
    have hc := h.moved.mem_iff.1 hc
    rw [same c (child c hc)]
    exact written c hc
  have nothing : ∀ c ∈ root.children, c.kind = .footnoteDefinition →
      textOf (x.transcode c) = "" := by
    intro c hc kind
    obtain ⟨text, h⟩ := written c hc
    have below := Node.mem_preorder_of_mem_parts root.self_mem_preorder
      (Node.mem_parts_of_mem_children hc)
    exact (textOf_of_ok h).trans (text_of_definition unshared rfl rfl below kind h)
  have body : Text.joinBlocks (root'.children.map fun c => textOf (x'.transcode c)) =
      Text.joinBlocks (root.children.map fun c => textOf (x.transcode c)) := by
    rw [← joinBlocks_rearranged h nothing]
    congr 1
    refine List.map_congr_left fun c hc => ?_
    rw [same c (child c (h.moved.mem_iff.1 hc))]
  have here := transcode_document (x := x) h.document unshared rfl rfl written
  have there := transcode_document (x := x') h.document' unshared' rfl rfl written'
  rw [Export.render, bind_result_of_ok here] at rendered
  rw [Export.render, bind_result_of_ok there, body]
  have footnotes' : x'.context.footnotes = x.context.footnotes := footnotes
  have appended : ∀ body, x'.context.footnotes.appendSection x'.transcode body =
      x.context.footnotes.appendSection x.transcode body := by
    rw [footnotes']
    exact appendSection_congr fun entry he n hn =>
      same n (mem_below_of_mem_entries h.document unshared.coherent he hn)
  exact (congrArg Outcome.result (appended _)).trans rendered

/-- A text that calls one label, defines another one in passing and has an anonymous footnote, which
calls the third. -/
def essayText : List Node :=
  [⟨1, .paragraph [⟨2, .footnoteReference (some "a") none⟩, ⟨3, .text "and"⟩]
      [⟨4, .footnoteReference (some "b") (some [⟨5, .text "in passing"⟩])⟩]⟩,
    ⟨6, .blockQuote
      [⟨7, .footnoteReference none (some [⟨8, .footnoteReference (some "c") none⟩])⟩]⟩]

/-- Definitions that call each other. -/
def essayNotes : List Node :=
  [⟨9, .footnoteDefinition "a" [⟨10, .footnoteReference (some "c") none⟩]⟩,
    ⟨11, .footnoteDefinition "c" [⟨12, .footnoteReference (some "a") none⟩]⟩]

/-- The definitions follow the text. -/
def essay : Node := ⟨0, .document (essayText ++ essayNotes)⟩

/-- The definitions come first, the other way round. -/
def essayTurned : Node := ⟨0, .document (essayNotes.reverse ++ essayText)⟩

theorem essay_rearranged : Rearranged essay essayTurned where
  document := rfl
  document' := rfl
  moved := ((List.reverse_perm essayNotes).append_right essayText).trans List.perm_append_comm
  text := rfl

theorem essay_unshared : essay.Unshared ∧ essayTurned.Unshared := by
  simp [Node.Unshared, essay, essayTurned, essayText, essayNotes, Node.preorder_eq, Node.parts,
    Node.body, Body.parts, Body.children, Body.attached, Node.key]

theorem essay_definitions : essay.definitions.map Prod.fst = ["b", "a", "c"] := by cbv

/-- Two labels are called in the text, and the third in the content of one of them. -/
theorem essay_reached (label : String) (defined : Defined essay label) :
    Reached essay (.label label) := by
  obtain ⟨n, hn, content, defines⟩ := defined
  have listed : label ∈ essay.definitions.map Prod.fst :=
    List.mem_map.2 ⟨(label, content), Node.mem_definitions_iff.2 ⟨n, hn, defines⟩, rfl⟩
  have called : essay.children.flatMap Node.called = [.label "a", .label "b", .anonymous 7] := by
    cbv
  have next : successors essay (.label "a") = [.label "c"] := by cbv
  rw [essay_definitions] at listed
  simp only [List.mem_cons, List.not_mem_nil, or_false] at listed
  rcases listed with rfl | rfl | rfl
  · exact ⟨.label "b", by simp [called], .refl⟩
  · exact ⟨.label "a", by simp [called], .refl⟩
  · exact ⟨.label "a", by simp [called], .single (by simp [next])⟩

theorem essay_rendered : Rearranged essay essayTurned ∧ ∃ text,
    (Leanpub.render .standard .leanpub ⟨"/home", "/"⟩ essay).result = .ok text ∧
      (Leanpub.render .standard .leanpub ⟨"/home", "/"⟩ essayTurned).result = .ok text :=
  ⟨essay_rearranged,
    render_rearranged essay essayTurned essay_rearranged essay_unshared.1 essay_unshared.2
      (by rw [essay_definitions]; decide) essay_reached .standard rfl ⟨"/home", "/"⟩⟩

end Leanpub.Export

end Manuscript
