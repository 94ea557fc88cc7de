import Manuscript.Proofs.Footnote.Renaming
import Manuscript.Proofs.Leanpub.Surroundings
import Manuscript.Proofs.Leanpub.Totality

/-!
# Suppressed content

Tables and raw markup leave nothing in a book, but whatever stands in a table is written like
everything else before the table is left out, and the index of the document and the surroundings of
all nodes are made with it. None of that shows:

* `captionAround_below`: below a block no caption is shown but one that stands there, too;
* `transcode_leftOut`: a node that is left out becomes nothing, and nothing fails in it;
* `Refilling.convert_same`, `Refilling.transcode_counterparts`: counterparts become the same;
* `render_refilled`: a book does not depend on what it leaves out.
-/

namespace Manuscript

/-- The failure in a document whose nodes have renamed keys. -/
def RenderError.rename (rename : Nat → Nat) : RenderError → RenderError
  | unnumbered key => unnumbered (key.rename rename)
  | e => e

theorem RenderError.rename_id : RenderError.rename id = id := by
  funext e
  cases e with
  | unnumbered key => cases key <;> rfl
  | _ => rfl

namespace Leanpub.Export

open Footnote Outcome

section
variable {root : Node} {x : Export}

/-- Below a block no caption is shown but one that stands there, too. -/
theorem captionAround_below (unshared : root.Unshared) (looked : x.context = Context.of root)
    {b : Node} (hb : b ∈ root.preorder) (block : b.isInline = false) {n : Node}
    (hn : n ∈ walk b.parts) : ∀ c ∈ x.captionAround n, c ∈ walk b.parts := by
  rw [walk_eq_flatMap_preorder] at hn
  obtain ⟨d, hd, inside⟩ := List.mem_flatMap.1 hn
  have hdr := Node.mem_preorder_of_mem_parts hb hd
  suffices both : ∀ m ∈ d.preorder,
      m ∈ walk b.parts ∧ ∀ c ∈ x.captionAround m, c ∈ walk b.parts from (both n inside).2
  refine Node.forall_mem_preorder ⟨Node.mem_walk_of_mem hd, ?_⟩ fun p hp above c hc => ?_
  · rcases List.mem_append.1 hd with child | attached
    · rw [captionAround_of_mem_children unshared looked hb child, block]
      exact fun c hc => Node.mem_walk_of_mem (List.mem_append_right _ hc)
    · rw [captionAround_of_mem_attached unshared looked hb attached, block]
      exact fun c hc => absurd hc List.not_mem_nil
  · have hpr := Node.preorder_subset hdr hp
    refine ⟨mem_walk_of_mem_parts above.1 hc, ?_⟩
    rcases List.mem_append.1 hc with child | attached
    · rw [captionAround_of_mem_children unshared looked hpr child]
      split
      · exact above.2
      · exact fun a ha => mem_walk_of_mem_parts above.1 (List.mem_append_right _ ha)
    · rw [captionAround_of_mem_attached unshared looked hpr attached]
      split
      · exact above.2
      · exact fun a ha => absurd ha List.not_mem_nil

/-- What a node below a block leads to stands below the block. -/
theorem mem_walk_of_calls (unshared : root.Unshared) (looked : x.context = Context.of root)
    {b : Node} (hb : b ∈ root.preorder) (block : b.isInline = false) {n m : Node}
    (hn : n ∈ walk b.parts) (path : Relation.ReflTransGen x.Calls n m) : m ∈ walk b.parts := by
  induction path with
  | refl => exact hn
  | tail _ calls ih =>
    cases calls with
    | child hc => exact mem_walk_of_mem_parts ih (Node.mem_parts_of_mem_children hc)
    | caption _ hc => exact captionAround_below unshared looked hb block ih _ hc

/-- Where no footnotes stand in a block, everything directly below it is written. -/
theorem written_below (unshared : root.Unshared) (looked : x.context = Context.of root)
    (rules : x.rules = .leanpub) (lenient : x.options.failOnDropped = false) {b : Node}
    (hb : b ∈ root.preorder) (block : b.isInline = false) (free : b.FootnoteFree) {c : Node}
    (hc : c ∈ b.parts) : ∃ text, (x.transcode c).result = .ok text := by
  cases h : (x.transcode c).result with
  | ok text => exact ⟨text, rfl⟩
  | error e =>
    have hcr := Node.mem_preorder_of_mem_parts hb hc
    obtain ⟨m, path, fails⟩ := exists_fails unshared looked hcr h
    have below : m ∈ walk b.parts :=
      mem_walk_of_calls unshared looked hb block (Node.mem_walk_of_mem hc) path
    have within : m ∈ b.preorder := by
      rw [Node.preorder_eq, ← walk_eq_flatMap_preorder]
      exact List.mem_cons_of_mem b below
    -- Only a reference could fail.
    obtain ⟨key, calls, -⟩ := labelFor_of_fails rules lenient fails
    rw [Node.footnoteKey?_eq_none (free m within).1] at calls
    cases calls

/-- What is left out becomes nothing, and nothing fails in it. -/
theorem transcode_leftOut (unshared : root.Unshared) (looked : x.context = Context.of root)
    (rules : x.rules = .leanpub) (lenient : x.options.failOnDropped = false) {n : Node}
    (hn : n ∈ root.preorder) (kind : n.kind.isLeftOut = true) (free : n.FootnoteFree) :
    (x.transcode n).result = .ok "" := by
  have children : ∀ c ∈ n.children, ∃ text, (x.transcode c).result = .ok text := by
    intro c hc
    have block : n.isInline = false := by
      obtain ⟨key, body⟩ := n
      cases body with
      | rawInline format markup => cases hc
      | table header rows alignments => rfl
      | rawBlock format markup => rfl
      | styled style content => cases style <;> cases kind
      | _ => cases kind
    exact written_below unshared looked rules lenient hn block free
      (Node.mem_parts_of_mem_children hc)
  have rule : x.rules.find? n.kind = some .suppress := by
    rw [rules]
    cases h : n.kind <;> rw [h] at kind <;> first | rfl | cases kind
  rw [transcode_eq unshared looked hn, bind_result_of_ok (mapM_result_textOf children),
    convert_result, rule]
  exact drop_result_of_lenient lenient n .unsupported

end

/-- Two exports by the rules of a book, of documents that differ in what is left out. -/
structure Refilling (rename : Nat → Nat) (root root' : Node) (x x' : Export) : Prop where
  injective : Function.Injective rename
  document : root.kind = .document
  refilled : Node.Refilled rename root root'
  unshared : root.Unshared
  unshared' : root'.Unshared
  looked : x.context = Context.of root
  looked' : x'.context = Context.of root'
  rules : x.rules = .leanpub
  rules' : x'.rules = .leanpub
  options : x'.options = x.options
  environment : x'.environment = x.environment
  lenient : x.options.failOnDropped = false

namespace Refilling

variable {rename : Nat → Nat} {root root' n n' : Node} {x x' : Export}

/-- Counterparts stand in equally many lists. -/
theorem listDepth_eq (r : Refilling rename root root' x x')
    (h : Node.Counterparts rename root root' n n') :
    (Parents.ofRoot root').listDepth n' = (Parents.ofRoot root).listDepth n := by
  induction h with
  | root =>
    rw [Parents.listDepth_root r.unshared.coherent, Parents.listDepth_root r.unshared'.coherent]
  | @part key pairs above below q hq ih =>
    rw [Parents.listDepth_of_mem_parts r.unshared above.mem_preorder.1
        (Node.mem_parts_map Prod.fst hq),
      Parents.listDepth_of_mem_parts r.unshared' above.mem_preorder.2
        (Node.mem_parts_map Prod.snd hq), ih, above.refilled.kind_eq]

/-- The captions that counterparts show correspond. -/
theorem captionAround (r : Refilling rename root root' x x')
    (h : Node.Counterparts rename root root' n n') :
    List.Forall₂ (Node.Counterparts rename root root')
      (x.captionAround n) (x'.captionAround n') := by
  induction h with
  | root =>
    rw [captionAround_root r.unshared.coherent r.looked,
      captionAround_root r.unshared'.coherent r.looked']
    exact .nil
  | @part key pairs above below q hq ih =>
    have inline := above.isInline_eq
    obtain ⟨hp, hp'⟩ := above.mem_preorder
    rcases List.mem_append.1 hq with child | attached
    · rw [captionAround_of_mem_children r.unshared r.looked hp
          (Node.mem_children_map Prod.fst child),
        captionAround_of_mem_children r.unshared' r.looked' hp'
          (Node.mem_children_map Prod.snd child), inline]
      split
      · exact ih
      · exact above.attached
    · rw [captionAround_of_mem_attached r.unshared r.looked hp
          (Node.mem_attached_map Prod.fst attached),
        captionAround_of_mem_attached r.unshared' r.looked' hp'
          (Node.mem_attached_map Prod.snd attached), inline]
      split
      · exact ih
      · exact .nil

/-- A reference is printed by the same label, or its counterpart has none either. -/
theorem labelFor_eq (r : Refilling rename root root' x x') (key : Key) :
    x'.context.labelFor (key.rename rename) =
      (x.context.labelFor key).mapError (RenderError.rename rename) := by
  cases key with
  | label l => rfl
  | anonymous reference =>
    have number : (Context.of root').numberFor ((Key.anonymous reference).rename rename) =
        ((Context.of root).numberFor (.anonymous reference)).mapError
          (RenderError.rename rename) := by
      simp only [Context.numberFor, Context.of, Index.number?_refilled r.injective r.document
        r.refilled r.unshared.coherent r.unshared'.coherent]
      split <;> rfl
    rw [r.looked, r.looked', Context.labelFor]
    simp only [Key.rename, Context.labelFor] at number ⊢
    rw [number]
    cases (Context.of root).numberFor (.anonymous reference) <;> rfl

/-- Counterparts that are not left out are written in the same way. -/
theorem convert_same (r : Refilling rename root root' x x') {key : Nat} {pairs : Body (Node × Node)}
    (h : Node.Counterparts rename root root'
      ⟨key, pairs.map Prod.fst⟩ ⟨rename key, pairs.map Prod.snd⟩)
    {renderCaption renderCaption' : List Node → Outcome RenderError String}
    (caption : x.ShowsCaption ⟨key, pairs.map Prod.fst⟩ →
      EndsLike (RenderError.rename rename)
        (renderCaption (x.captionAround ⟨key, pairs.map Prod.fst⟩))
        (renderCaption' (x'.captionAround ⟨rename key, pairs.map Prod.snd⟩)))
    (fragments : List String) :
    EndsLike (RenderError.rename rename)
      (x.convert renderCaption ⟨key, pairs.map Prod.fst⟩ fragments)
      (x'.convert renderCaption' ⟨rename key, pairs.map Prod.snd⟩ fragments) := by
  have depth := r.listDepth_eq h
  have label := r.labelFor_eq
  have drop := drop_result_of_lenient r.lenient
  have drop' := drop_result_of_lenient (r.options ▸ r.lenient : x'.options.failOnDropped = false)
  obtain ⟨options, rules, environment, context⟩ := x
  obtain ⟨options', rules', environment', context'⟩ := x'
  obtain rfl : options' = options := r.options
  obtain rfl : environment' = environment := r.environment
  obtain rfl : rules = .leanpub := r.rules
  obtain rfl : rules' = .leanpub := r.rules'
  obtain rfl : context = Context.of root := r.looked
  obtain rfl : context' = Context.of root' := r.looked'
  cases pairs with
  | list marking tight items =>
    refine .of_ok rfl (congrArg Except.ok ?_)
    exact congrArg (Markdown.listing options'.toMarkdownOptions · marking tight fragments) depth
  | table header rows alignments => exact .of_ok (drop _ _) (drop' _ _)
  | rawBlock format markup => exact .of_ok (drop _ _) (drop' _ _)
  | rawInline format markup => exact .of_ok (drop _ _) (drop' _ _)
  | footnoteReference l definition =>
    have printed := label (keyOf l key)
    rw [← keyOf_rename] at printed
    change (((Context.of root').labelFor (keyOf l (rename key))).map Markdown.footnoteReference) =
      (((Context.of root).labelFor (keyOf l key)).map Markdown.footnoteReference).mapError _
    rw [printed]
    cases (Context.of root).labelFor (keyOf l key) <;> rfl
  | link target content title =>
    change EndsLike _ (Export.link _ renderCaption _ target (String.join fragments))
      (Export.link _ renderCaption' _ target (String.join fragments))
    unfold Export.link
    cases use : linkUse options' target with
    | image => exact .bind (caption ⟨rfl, target, _, title, rfl, use⟩) fun _ => .pure _
    | nothing => exact .of_ok (drop _ _) (drop' _ _)
    | _ => rfl
  | styled style content => cases style <;> rfl
  | _ => rfl

/-- **Counterparts become the same**, or fail in the same way. -/
theorem transcode_counterparts (r : Refilling rename root root' x x')
    (h : Node.Counterparts rename root root' n n') :
    EndsLike (RenderError.rename rename) (x.transcode n) (x'.transcode n') := by
  obtain ⟨hn, hn'⟩ := h.mem_preorder
  -- The induction is along the calls of the first document: what a node of the second one asks for
  -- has counterparts there, unless both are left out.
  induction acc_calls r.unshared r.looked hn generalizing n' with
  | intro n _ ih =>
    have each : ∀ {nodes nodes'}, (∀ c ∈ nodes, x.Calls n c) →
        List.Forall₂ (Node.Counterparts rename root root') nodes nodes' →
        List.Forall₂ (fun c c' => EndsLike (RenderError.rename rename)
          (x.transcode c) (x'.transcode c')) nodes nodes' := by
      intro nodes nodes' calls same
      refine ((List.forall₂_and_left _ _).2 ⟨calls, same⟩).imp fun c c' asked => ?_
      exact ih c asked.1 asked.2 asked.2.mem_preorder.1 asked.2.mem_preorder.2
    rcases h.leftOut_or_same with ⟨kind, kind', free, free'⟩ | ⟨key, pairs, rfl, rfl, below⟩
    · exact .of_ok (transcode_leftOut r.unshared r.looked r.rules r.lenient hn kind free)
        (transcode_leftOut r.unshared' r.looked' r.rules' (r.options ▸ r.lenient) hn'
          (kind' ▸ kind) free')
    · rw [transcode_eq r.unshared r.looked hn, transcode_eq r.unshared' r.looked' hn']
      refine .bind (.mapM (each (fun c hc => .child hc) ?_)) (r.convert_same h fun shows => ?_)
      · simp only [Node.children, Node.body, Body.children_map]
        exact forall₂_map_pairs fun q hq => below q (List.mem_append_left _ hq)
      · refine renderNodes_endsLike ?_ (each (fun c hc => .caption shows hc) (r.captionAround h))
        exact (r.captionAround h).imp fun c c' same => same.isInline_eq

/-- The footnote sections are the same. -/
theorem appendSection_endsLike (r : Refilling rename root root' x x') (body : String) :
    EndsLike (RenderError.rename rename) (x.context.footnotes.appendSection x.transcode body)
      (x'.context.footnotes.appendSection x'.transcode body) := by
  have entries : List.Forall₂ (Index.SameEntry rename root root')
      x.context.footnotes.entries x'.context.footnotes.entries := by
    rw [r.looked, r.looked']
    exact Index.ofRoot_entries_refilled r.injective r.document r.refilled r.unshared.coherent
      r.unshared'.coherent
  have each : List.Forall₂ (fun entry entry' => EndsLike (RenderError.rename rename)
      (entry.render x.transcode) (entry'.render x'.transcode))
      x.context.footnotes.entries x'.context.footnotes.entries := by
    refine entries.imp fun entry entry' same => ?_
    have marker : entry'.marker = entry.marker := by
      rw [Entry.marker, Entry.marker, same.label, same.number]
    rw [Entry.render, Entry.render, marker]
    refine .bind (renderNodes_endsLike ?_ ?_) fun _ => .pure _
    · exact same.content.imp fun n n' same => same.isInline_eq
    · exact same.content.imp fun n n' same => r.transcode_counterparts same
  have empty : x'.context.footnotes.entries.isEmpty = x.context.footnotes.entries.isEmpty := by
    rw [Bool.eq_iff_iff, List.isEmpty_iff_length_eq_zero, List.isEmpty_iff_length_eq_zero,
      entries.length_eq]
  unfold Index.appendSection Index.renderDefinitions
  rw [empty]
  split
  · exact .pure _
  · exact .bind (.bind (.mapM each) fun _ => .pure _) fun _ => .pure _

end Refilling

/-- **A book does not depend on what it leaves out.** With other tables and other raw markup a
document is rendered to the same text, or it fails for the same reason. Where the nodes are renamed
the anonymous footnote that a failure names is renamed, too. -/
theorem render_refilled (rename : Nat → Nat) (injective : Function.Injective rename)
    (root root' : Node) (document : root.kind = .document)
    (refilled : Node.Refilled rename root root') (unshared : root.Unshared)
    (unshared' : root'.Unshared) (options : LeanpubOptions)
    (lenient : options.failOnDropped = false) (environment : Environment) :
    (Leanpub.render options .leanpub environment root').result =
      (Leanpub.render options .leanpub environment root).result.mapError
        (RenderError.rename rename) := by
  have r : Refilling rename root root' ⟨options, .leanpub, environment, Context.of root⟩
      ⟨options, .leanpub, environment, Context.of root'⟩ :=
    ⟨injective, document, refilled, unshared, unshared', rfl, rfl, rfl, rfl, rfl, rfl, lenient⟩
  rw [render_result, render_result]
  exact EndsLike.bind (r.transcode_counterparts (.root refilled)) r.appendSection_endsLike

/-- A picture with raw markup and a table in its caption. -/
def plate (markup : String) (figures : Node) : Node :=
  ⟨1, .paragraph [picture 2 "sky"] [⟨3, .rawInline "html" markup⟩, figures]⟩

/-- The picture, and a footnote that holds a table. -/
def almanac (markup : String) (figures note : Node) : Node :=
  ⟨0, .document [plate markup figures, ⟨4, .footnoteReference (some "n") none⟩,
    ⟨5, .footnoteDefinition "n" [note]⟩]⟩

/-- A table that holds a picture with a caption of its own. -/
def chart : Node :=
  ⟨6, .table none [⟨7, .tableCell [⟨8, .paragraph [picture 9 "moon"] [⟨10, .text "Moon"⟩]⟩]⟩] none⟩

def blank : Node := ⟨11, .table none [] (some [none])⟩

theorem chart_refilled : Node.Refilled id chart blank ∧ Node.Refilled id blank chart := by
  have free : chart.FootnoteFree ∧ blank.FootnoteFree := by
    simp [Node.FootnoteFree, chart, blank, picture, Node.preorder_eq, Node.parts, Node.kind,
      Node.body, Body.kind, Body.parts, Body.children, Body.attached]
  exact ⟨.leftOut rfl rfl free.1 free.2, .leftOut rfl rfl free.2 free.1⟩

/-- The tables change places, and the raw markup becomes another one. -/
theorem almanac_refilled :
    Node.Refilled id (almanac "<hr>" chart blank) (almanac "</hr>" blank chart) := by
  have plates : Node.Refilled id (plate "<hr>" chart) (plate "</hr>" blank) := by
    refine .same 1 (.paragraph [(picture 2 "sky", picture 2 "sky")]
      [(⟨3, .rawInline "html" "<hr>"⟩, ⟨3, .rawInline "html" "</hr>"⟩), (chart, blank)]) ?_
    simp only [Body.parts, Body.children, Body.attached, List.cons_append, List.nil_append,
      List.forall_mem_cons]
    exact ⟨.refl _, .raw (.inr rfl) rfl, chart_refilled.1, by simp⟩
  have notes : Node.Refilled id ⟨5, .footnoteDefinition "n" [blank]⟩
      ⟨5, .footnoteDefinition "n" [chart]⟩ := by
    refine .same 5 (.footnoteDefinition "n" [(blank, chart)]) ?_
    simpa [Body.parts, Body.children, Body.attached] using chart_refilled.2
  refine .same 0 (.document [(plate "<hr>" chart, plate "</hr>" blank),
    (⟨4, .footnoteReference (some "n") none⟩, ⟨4, .footnoteReference (some "n") none⟩),
    (⟨5, .footnoteDefinition "n" [blank]⟩, ⟨5, .footnoteDefinition "n" [chart]⟩)]) ?_
  simp only [Body.parts, Body.children, Body.attached, List.append_nil, List.forall_mem_cons]
  exact ⟨plates, .refl _, notes, by simp⟩

theorem almanac_unshared : (almanac "<hr>" chart blank).Unshared ∧
    (almanac "</hr>" blank chart).Unshared := by
  simp [Node.Unshared, almanac, plate, chart, blank, picture, Node.preorder_eq, Node.parts,
    Node.body, Body.parts, Body.children, Body.attached, Node.key]

theorem almanac_rendered :
    (Leanpub.render .standard .leanpub ⟨"/home", "/"⟩ (almanac "</hr>" blank chart)).result =
      (Leanpub.render .standard .leanpub ⟨"/home", "/"⟩ (almanac "<hr>" chart blank)).result := by
  have same := render_refilled id Function.injective_id (almanac "<hr>" chart blank)
    (almanac "</hr>" blank chart) rfl almanac_refilled almanac_unshared.1 almanac_unshared.2
    .standard rfl ⟨"/home", "/"⟩
  rw [RenderError.rename_id] at same
  exact endsLike_id.1 same

end Leanpub.Export

end Manuscript
