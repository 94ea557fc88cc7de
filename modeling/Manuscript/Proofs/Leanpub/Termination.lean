import Manuscript.Proofs.Footnote.Entries
import Manuscript.Proofs.Leanpub.Nesting

/-!
# Writing a book comes to an end

Captions are shown within captions to a depth that is fixed beforehand. On a document without shared
nodes that is no limit:

* `transcodeWithin_eq`: a depth of the nesting of a node is deep enough for it;
* `transcode_eq`, `eq_transcode`: writing is the recursion through children and captions, and
  nothing else is;
* `Written`: the nodes that are written for the body and for the footnote section;
* `fails_of_render`, `written_of_render`: a book fails with a node that fails by itself, and is
  rendered only if all nodes are that it asks for;
* `rendering_terminates`: on a document without shared nodes the recursion is well founded.
-/

namespace Manuscript.Leanpub.Export

variable {root : Node} {x : Export}

theorem recursion_congr {n : Node}
    {render render' caption caption' : Node → Outcome RenderError String}
    (children : ∀ c ∈ n.children, render c = render' c)
    (captions : x.ShowsCaption n → ∀ c ∈ x.captionAround n, caption c = caption' c) :
    n.children.mapM render >>= x.convert (renderNodes caption) n =
      n.children.mapM render' >>= x.convert (renderNodes caption') n := by
  have same : x.convert (renderNodes caption) n = x.convert (renderNodes caption') n :=
    funext (convert_congr fun shows => renderNodes_congr (captions shows))
  rw [Outcome.mapM_congr children, same]

theorem transcodeWithin_succ (x : Export) (depth : Nat) (n : Node) :
    x.transcodeWithin (depth + 1) n =
      n.children.mapM (x.transcodeWithin (depth + 1)) >>=
        x.convert (renderNodes (x.transcodeWithin depth)) n :=
  Node.fold_eq _ n

/-- Where the depth is enough for the nesting of a node it has no part in what the node becomes. -/
theorem transcodeWithin_eq (unshared : root.Unshared) (looked : x.context = Context.of root)
    {n : Node} (hn : n ∈ root.preorder) {depth depth' : Nat} (enough : nesting root n ≤ depth)
    (enough' : nesting root n ≤ depth') :
    x.transcodeWithin depth n = x.transcodeWithin depth' n := by
  -- The induction is along the calls: a child may be nested as deeply as the node, so that the
  -- depth stays, and a caption is nested less, so that one depth less is enough for it.
  induction acc_calls unshared looked hn generalizing depth depth' with
  | intro n _ ih =>
    have positive : 0 < nesting root n :=
      Nat.lt_of_lt_of_le n.size_pos (nesting_bounds unshared.coherent hn).1
    obtain ⟨d, rfl⟩ : ∃ d, depth = d + 1 := ⟨depth - 1, by omega⟩
    obtain ⟨d', rfl⟩ : ∃ d', depth' = d' + 1 := ⟨depth' - 1, by omega⟩
    rw [transcodeWithin_succ, transcodeWithin_succ]
    refine recursion_congr (fun c hc => ?_) fun shows c hc => ?_
    · obtain ⟨hcr, le⟩ := nesting_le_of_mem_children unshared hn hc
      exact ih c (.child hc) hcr (by omega) (by omega)
    · obtain ⟨hcr, lt⟩ := nesting_lt_of_mem_captionAround unshared looked hn hc
      exact ih c (.caption shows hc) hcr (by omega) (by omega)

theorem nesting_le_captionDepth (unshared : root.Unshared) (looked : x.context = Context.of root)
    {n : Node} (hn : n ∈ root.preorder) : nesting root n ≤ x.captionDepth := by
  rw [captionDepth, looked]
  exact Nat.le_trans (nesting_bounds unshared.coherent hn).2 (Parents.size_le_entries unshared)

/-- A node becomes what its children and the caption that it shows make of it. -/
theorem transcode_eq (unshared : root.Unshared) (looked : x.context = Context.of root) {n : Node}
    (hn : n ∈ root.preorder) :
    x.transcode n = n.children.mapM x.transcode >>= x.convert (renderNodes x.transcode) n := by
  have enough := nesting_le_captionDepth unshared looked hn
  conv_lhs => rw [transcode, captionDepth, transcodeWithin_succ]
  refine recursion_congr (fun c _ => rfl) fun _ c hc => ?_
  obtain ⟨hcr, lt⟩ := nesting_lt_of_mem_captionAround unshared looked hn hc
  rw [captionDepth] at enough
  have fits := nesting_le_captionDepth unshared looked hcr
  exact transcodeWithin_eq unshared looked hcr (by omega) fits

theorem eq_transcode (unshared : root.Unshared) (looked : x.context = Context.of root)
    {render : Node → Outcome RenderError String}
    (recursion : ∀ n ∈ root.preorder,
      render n = n.children.mapM render >>= x.convert (renderNodes render) n)
    {n : Node} (hn : n ∈ root.preorder) : render n = x.transcode n := by
  induction acc_calls unshared looked hn with
  | intro n _ ih =>
    rw [recursion n hn, transcode_eq unshared looked hn]
    refine recursion_congr (fun c hc => ?_) fun shows c hc => ?_
    · exact ih c (.child hc) (nesting_le_of_mem_children unshared hn hc).1
    · exact ih c (.caption shows hc) (nesting_lt_of_mem_captionAround unshared looked hn hc).1

/-- The nodes that a book is written from: the document, the contents of its footnote section, and
what these ask for. -/
inductive Written (x : Export) : Node → Prop where
  | document : Written x x.context.document
  | definition {entry : Footnote.Entry} {n : Node} (he : entry ∈ x.context.footnotes.entries)
      (hn : n ∈ entry.content) : Written x n
  | call {n m : Node} (h : Written x n) (calls : x.Calls n m) : Written x m

theorem mem_preorder_of_mem_entries (coherent : root.Coherent) {entry : Footnote.Entry}
    (he : entry ∈ (Footnote.Index.ofRoot root).entries) {n : Node} (hn : n ∈ entry.content) :
    n ∈ root.preorder := by
  obtain ⟨_, _, _, content⟩ := (Footnote.Index.ofRoot_faithful coherent).mem_entries_iff.1 he
  exact Footnote.mem_preorder_of_mem_contentOf content hn

theorem mem_preorder_of_mem_captionAround (coherent : root.Coherent)
    (looked : x.context = Context.of root) {n c : Node} (hn : n ∈ root.preorder)
    (hc : c ∈ x.captionAround n) : c ∈ root.preorder := by
  obtain ⟨b, around, attached, -⟩ := exists_block_of_mem_captionAround hc
  rw [looked] at around
  have hb := (Parents.enclosingBlock?_larger coherent hn around).1
  exact Node.mem_preorder_of_mem_parts hb (List.mem_append_right _ attached)

/-- What a node asks for belongs to the document that the node belongs to, also where nodes are
shared. -/
theorem Calls.mem_preorder (coherent : root.Coherent) (looked : x.context = Context.of root)
    {n m : Node} (hn : n ∈ root.preorder) (h : x.Calls n m) : m ∈ root.preorder := by
  cases h with
  | child hc => exact Node.mem_preorder_of_mem_parts hn (Node.mem_parts_of_mem_children hc)
  | caption _ hc => exact mem_preorder_of_mem_captionAround coherent looked hn hc

theorem Written.mem_document (coherent : root.Coherent) (looked : x.context = Context.of root)
    {n : Node} (h : x.Written n) : n ∈ root.preorder := by
  induction h with
  | document =>
    rw [looked]
    exact root.self_mem_preorder
  | definition he hn =>
    rw [looked] at he
    exact mem_preorder_of_mem_entries coherent he hn
  | call _ calls ih => exact calls.mem_preorder coherent looked ih

theorem Written.mem_preorder (unshared : root.Unshared) (looked : x.context = Context.of root)
    {n : Node} (h : x.Written n) : n ∈ root.preorder := h.mem_document unshared.coherent looked

/-- A node that cannot be written leads to one that fails by itself. -/
theorem exists_fails (unshared : root.Unshared) (looked : x.context = Context.of root) {n : Node}
    (hn : n ∈ root.preorder) {e : RenderError} (h : (x.transcode n).result = .error e) :
    ∃ m, Relation.ReflTransGen x.Calls n m ∧ x.Fails m e := by
  induction acc_calls unshared looked hn with
  | intro n _ ih =>
    have below : ∀ c, x.Calls n c → (x.transcode c).result = .error e →
        ∃ m, Relation.ReflTransGen x.Calls n m ∧ x.Fails m e := by
      intro c calls fails
      obtain ⟨m, path, fails⟩ := ih c calls (calls.step unshared looked hn).1 fails
      exact ⟨m, .head calls path, fails⟩
    rw [transcode_eq unshared looked hn] at h
    rcases Outcome.bind_result_eq_error_iff.1 h with children | ⟨fragments, -, h⟩
    · obtain ⟨c, hc, fails⟩ := Outcome.mapM_result_eq_error children
      exact below c (.child hc) fails
    · rcases error_of_convert h with ⟨shows, caption⟩ | fails
      · obtain ⟨c, hc, fails⟩ := renderNodes_result_eq_error caption
        exact below c (.caption shows hc) fails
      · exact ⟨n, .refl, fails⟩

theorem Written.fails (unshared : root.Unshared) (looked : x.context = Context.of root) {n : Node}
    (written : x.Written n) {e : RenderError} (h : (x.transcode n).result = .error e) :
    ∃ m, x.Written m ∧ x.Fails m e := by
  obtain ⟨m, path, fails⟩ :=
    exists_fails unshared looked (written.mem_preorder unshared looked) h
  refine ⟨m, ?_, fails⟩
  clear fails
  induction path with
  | refl => exact written
  | tail _ calls ih => exact ih.call calls

/-- A node that is written has all written that it asks for. -/
theorem transcode_of_calls (unshared : root.Unshared) (looked : x.context = Context.of root)
    {n m : Node} (hn : n ∈ root.preorder) (calls : x.Calls n m) {text : String}
    (h : (x.transcode n).result = .ok text) : ∃ text, (x.transcode m).result = .ok text := by
  rw [transcode_eq unshared looked hn] at h
  obtain ⟨fragments, children, h⟩ := Outcome.bind_result_eq_ok_iff.1 h
  cases calls with
  | child hc => exact Outcome.mapM_result_eq_ok children m hc
  | caption shows hc =>
    obtain ⟨caption, rendered⟩ := caption_of_convert shows h
    exact renderNodes_result_eq_ok rendered m hc

theorem appendSection_result_eq_error {ε : Type} {write : Node → Outcome ε String}
    {index : Footnote.Index} {body : String} {e : ε}
    (h : (index.appendSection write body).result = .error e) :
    ∃ entry ∈ index.entries, ∃ n ∈ entry.content, (write n).result = .error e := by
  unfold Footnote.Index.appendSection Footnote.Index.renderDefinitions at h
  split at h
  next => cases h
  next =>
    rcases Outcome.bind_result_eq_error_iff.1 h with definitions | ⟨_, -, h⟩
    · rcases Outcome.bind_result_eq_error_iff.1 definitions with each | ⟨_, -, h⟩
      · obtain ⟨entry, he, fails⟩ := Outcome.mapM_result_eq_error each
        rcases Outcome.bind_result_eq_error_iff.1 fails with content | ⟨_, -, h⟩
        · exact ⟨entry, he, renderNodes_result_eq_error content⟩
        · cases h
      · cases h
    · cases h

theorem appendSection_result_eq_ok {ε : Type} {write : Node → Outcome ε String}
    {index : Footnote.Index} {body text : String}
    (h : (index.appendSection write body).result = .ok text) :
    ∀ entry ∈ index.entries, ∀ n ∈ entry.content, ∃ fragment, (write n).result = .ok fragment := by
  unfold Footnote.Index.appendSection Footnote.Index.renderDefinitions at h
  split at h
  next none =>
    intro entry he
    rw [List.isEmpty_iff.1 none] at he
    cases he
  next =>
    intro entry he
    obtain ⟨_, definitions, -⟩ := Outcome.bind_result_eq_ok_iff.1 h
    obtain ⟨_, each, -⟩ := Outcome.bind_result_eq_ok_iff.1 definitions
    obtain ⟨_, rendered⟩ := Outcome.mapM_result_eq_ok each entry he
    obtain ⟨_, content, -⟩ := Outcome.bind_result_eq_ok_iff.1 rendered
    exact renderNodes_result_eq_ok content

theorem appendSection_congr {index : Footnote.Index}
    {write write' : Node → Outcome RenderError String}
    (same : ∀ entry ∈ index.entries, ∀ n ∈ entry.content, write n = write' n) (body : String) :
    index.appendSection write body = index.appendSection write' body := by
  have definitions : index.entries.mapM (Footnote.Entry.render write) =
      index.entries.mapM (Footnote.Entry.render write') := by
    refine Outcome.mapM_congr fun entry he => ?_
    rw [Footnote.Entry.render, Footnote.Entry.render, renderNodes_congr (same entry he)]
  rw [Footnote.Index.appendSection, Footnote.Index.appendSection,
    Footnote.Index.renderDefinitions, Footnote.Index.renderDefinitions, definitions]

/-- A book that cannot be rendered holds a node that fails by itself. -/
theorem fails_of_render (unshared : root.Unshared) (looked : x.context = Context.of root)
    {e : RenderError} (h : (x.render root).result = .error e) : ∃ n, x.Written n ∧ x.Fails n e := by
  rcases Outcome.bind_result_eq_error_iff.1 h with body | ⟨body, -, h⟩
  · have written : x.Written root := by simpa [looked, Context.of] using Written.document (x := x)
    exact written.fails unshared looked body
  · obtain ⟨entry, he, n, hn, fails⟩ := appendSection_result_eq_error h
    exact Written.fails unshared looked (.definition he hn) fails

/-- Everything that a rendered book asks for is written. -/
theorem written_of_render (unshared : root.Unshared) (looked : x.context = Context.of root)
    {text : String} (h : (x.render root).result = .ok text) {n : Node} (written : x.Written n) :
    ∃ fragment, (x.transcode n).result = .ok fragment := by
  obtain ⟨body, rendered, h⟩ := Outcome.bind_result_eq_ok_iff.1 h
  induction written with
  | document => exact ⟨body, by simpa [looked, Context.of] using rendered⟩
  | definition he hn => exact appendSection_result_eq_ok h _ he _ hn
  | call above calls ih =>
    obtain ⟨_, rendered⟩ := ih
    exact transcode_of_calls unshared looked (above.mem_preorder unshared looked) calls rendered

/-- Writing the nodes of a document comes to an end. -/
structure Terminates (x : Export) (root : Node) : Prop where
  /-- Writing a node reads nothing but what the node asks for. -/
  asks : ∀ n (render render' : Node → Outcome RenderError String),
    (∀ m, x.Calls n m → render m = render' m) →
      n.children.mapM render >>= x.convert (renderNodes render) n =
        n.children.mapM render' >>= x.convert (renderNodes render') n
  /-- No node of the document asks for others without end. -/
  ends : ∀ n ∈ root.preorder, Acc (fun m n => x.Calls n m) n
  /-- Everything that is written belongs to the document. -/
  within : ∀ n, x.Written n → n ∈ root.preorder
  /-- There is one way to write the nodes by what they ask for, and it has no limit. -/
  recursion : ∀ n ∈ root.preorder,
    x.transcode n = n.children.mapM x.transcode >>= x.convert (renderNodes x.transcode) n
  unique : ∀ render : Node → Outcome RenderError String,
    (∀ n ∈ root.preorder,
      render n = n.children.mapM render >>= x.convert (renderNodes render) n) →
    ∀ n ∈ root.preorder, render n = x.transcode n
  /-- A greater depth of captions changes nothing. -/
  deeper : ∀ n ∈ root.preorder, ∀ depth ≥ x.captionDepth,
    x.transcodeWithin depth n = x.transcode n
  /-- The way from a node up to the root has an end, too. -/
  climbs : ∀ n ∈ root.preorder, ∀ steps ≥ x.context.parents.entries.length,
    x.context.parents.climb steps n = x.context.parents.ancestors n

theorem terminates (unshared : root.Unshared) (looked : x.context = Context.of root) :
    Terminates x root where
  asks n render render' same :=
    recursion_congr (fun c hc => same c (.child hc)) fun shows c hc => same c (.caption shows hc)
  ends n hn := acc_calls unshared looked hn
  within n written := written.mem_preorder unshared looked
  recursion n hn := transcode_eq unshared looked hn
  unique render recursion n hn := eq_transcode unshared looked recursion hn
  deeper n hn depth enough :=
    have fits := nesting_le_captionDepth unshared looked hn
    transcodeWithin_eq unshared looked hn (Nat.le_trans fits enough) fits
  climbs n hn steps enough := by
    rw [looked] at enough ⊢
    have room := (Parents.ofRoot root).room_le n
    exact Parents.climb_eq unshared.coherent hn (Nat.le_trans room enough) room

theorem not_fails_captionCycle {n : Node} : ¬ x.Fails n .captionCycle := by
  intro fails
  rcases fault_of_fails fails with ⟨-, _, other⟩ | fault | ⟨-, foreign⟩
  · cases other
  · cases fault with
    | reference key calls nameless =>
      obtain ⟨_, -, other⟩ := Markdown.labelFor_eq_error nameless
      cases other
  · cases foreign with
    | label nameless =>
      obtain ⟨_, -, other⟩ := Markdown.labelFor_eq_error nameless
      cases other

theorem render_result (options : LeanpubOptions) (rules : RuleTable) (environment : Environment)
    (root : Node) : (Leanpub.render options rules environment root).result =
      (Export.render ⟨options, rules, environment, Context.of root⟩ root).result :=
  Outcome.bind_result_of_ok (ofDocument_result options rules environment root) _

/-- **Rendering a document without shared nodes terminates**, and never for want of depth. -/
theorem rendering_terminates (root : Node) (unshared : root.Unshared) (options : LeanpubOptions)
    (rules : RuleTable) (environment : Environment) :
    Terminates ⟨options, rules, environment, Context.of root⟩ root ∧
      (Leanpub.render options rules environment root).result ≠ .error .captionCycle := by
  refine ⟨terminates unshared rfl, fun cycle => ?_⟩
  rw [render_result] at cycle
  obtain ⟨_, -, fails⟩ := fails_of_render unshared rfl cycle
  exact not_fails_captionCycle fails

/-- A link to an image. -/
def picture (key : Nat) (name : String) : Node := ⟨key, .link ⟨"file", name ++ ".png"⟩ [] none⟩

/-- Pictures with captions that hold pictures: in a caption, in the definition of a footnote, and in
what a reference brings. -/
def album : Node :=
  let inner : Node := ⟨5, .paragraph [picture 6 "b"] [⟨7, .text "B"⟩, picture 8 "c"]⟩
  let aside : Node := ⟨9, .paragraph [picture 10 "d"] [⟨11, .text "D"⟩]⟩
  let note : Node := ⟨14, .paragraph [picture 15 "e"] [⟨16, .paragraph [picture 17 "f"] []⟩]⟩
  ⟨0, .document
    [⟨1, .paragraph [picture 2 "a"]
        [⟨3, .text "A"⟩, inner, ⟨4, .footnoteReference none (some [aside])⟩]⟩,
      ⟨12, .footnoteDefinition "n" [⟨13, .blockQuote [note]⟩]⟩]⟩

theorem album_unshared : album.Unshared := by
  simp [Node.Unshared, album, picture, Node.preorder_eq, Node.parts, Node.body, Body.parts,
    Body.children, Body.attached, Node.key]

theorem album_terminates : album.Unshared ∧
    Terminates ⟨.standard, .leanpub, ⟨"/home", "/"⟩, Context.of album⟩ album ∧
      (Leanpub.render .standard .leanpub ⟨"/home", "/"⟩ album).result ≠ .error .captionCycle :=
  ⟨album_unshared, rendering_terminates album album_unshared .standard .leanpub ⟨"/home", "/"⟩⟩

end Manuscript.Leanpub.Export
