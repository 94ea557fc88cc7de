import Mathlib
import Manuscript.Proofs.Document.Reattached
import Manuscript.Proofs.Document.Shown
import Manuscript.Proofs.Markdown.Carried

/-!
# Footnote definitions in generic Markdown

Generic Markdown has no section of footnotes. The definitions that stand in the text are written
where they stand, and no other ones:

* `headsInPlace`: the heads of the definitions in the text;
* `transcode_reattached`: what references bring along and captions are not written at all;
* `render_definitions`: what comes of both for the entries of the index.
-/

namespace Manuscript.Markdown

open Text Footnote

/-- A label that stays in one piece: it has no character that ends a line or that a table escapes. -/
def IsPlain (label : String) : Prop :=
  '\n' ∉ label.toList ∧ '\r' ∉ label.toList ∧ '|' ∉ label.toList

instance (label : String) : Decidable (IsPlain label) :=
  inferInstanceAs (Decidable (_ ∧ _ ∧ _))

/-- The head of a definition under a plain label. -/
def plainHead? (n : Node) : Option String :=
  match n.body with
  | .footnoteDefinition label _ => if IsPlain label then some (definitionHead label) else none
  | _ => none

/-- The nodes that stand in the text of a document: all of them but those in captions and those that
references bring along. -/
def inText (root : Node) : List Node := root.shown fun _ => false

/-- The heads of the definitions in the text, in document order. -/
def headsInPlace (root : Node) : List String := (inText root).filterMap plainHead?

abbrev plainHeads (n : Node) : List (List Char) :=
  n.shownTexts (fun _ => false) (Node.picked plainHead?)

/-- The entry has a definition in the text, under a plain label. -/
def InPlace (root : Node) (entry : Entry) : Prop :=
  ∃ label content, entry.label = some label ∧ label ≠ "" ∧ IsPlain label ∧
    ∃ n ∈ inText root, n.body = .footnoteDefinition label content

/-- The text holds a definition of the entry. -/
def Defines (text : String) (entry : Entry) : Prop :=
  ∃ before after, text = before ++ definitionHead entry.marker ++ after

/-- No footnote is without a definition in what a document is rendered to. -/
def Complete (o : MarkdownOptions) (root : Node) : Prop :=
  ∀ text, (render o root).result = .ok text →
    ∀ entry ∈ (Index.ofRoot root).entries, Defines text entry

variable {o : MarkdownOptions} {context : Context} {n n' root : Node} {fragments : List String}
  {text : String}

/-! ## Definitions in the text -/

theorem plain_of_mem {t : List Char} (h : t ∈ plainHeads n) :
    ('\n' ∉ t ∧ '\r' ∉ t ∧ '|' ∉ t) ∧ ∃ front c, t = front ++ [c] ∧ isBlank c = false := by
  rw [plainHeads, Node.shownTexts_picked] at h
  obtain ⟨head, hh, rfl⟩ := List.mem_map.1 h
  obtain ⟨m, -, picked⟩ := List.mem_filterMap.1 hh
  unfold plainHead? at picked
  split at picked
  next label _ _ =>
    split at picked
    next plain =>
      cases picked
      obtain ⟨newline, carriage, bar⟩ := plain
      refine ⟨⟨?_, ?_, ?_⟩, ("[^" ++ label ++ "]").toList, ':', by simp [definitionHead], by decide⟩
      · simpa [definitionHead] using newline
      · simpa [definitionHead] using carriage
      · simpa [definitionHead] using bar
    next => cases picked
  next => cases picked

/-- A definition in the text is written with all that is below it. -/
theorem transcode_definition (h : (transcode o context root).result = .ok text) (hn : n ∈ inText root)
    {label : String} {content : List Node} (hb : n.body = .footnoteDefinition label content) :
    ∃ fragments, (content.mapM (transcode o context)).result = .ok fragments ∧
      (transcode o context n).result = .ok (footnoteDefinition label (joinBlocks fragments)) := by
  obtain ⟨here, written⟩ := exists_text_of_shown h n hn
  have children : n.children = content := by simp [Node.children, Body.children, hb]
  have below := written
  rw [Node.fold_eq, children] at below
  obtain ⟨fragments, each, made⟩ := Outcome.bind_result_eq_ok_iff.1 below
  rw [convert, hb] at made
  cases made
  exact ⟨fragments, each, written⟩

theorem picked_sublist (n : Node) : (Node.picked plainHead? n).Sublist n.heads := by
  obtain ⟨key, body⟩ := n
  cases body with
  | footnoteDefinition label content =>
    by_cases plain : IsPlain label <;> simp [Node.picked, plainHead?, Node.heads, Node.body, plain]
  | _ => exact List.nil_sublist _

theorem transcode_carries (h : (transcode o context n).result = .ok text) :
    Carries (plainHeads n) text.toList := by
  have unbroken : ∀ m, ∀ t ∈ plainHeads m, Unbroken t := by
    intro m t ht
    obtain ⟨⟨newline, -, bar⟩, -⟩ := plain_of_mem ht
    exact ⟨newline, bar⟩
  have keeps : ∀ m fragments text, (convert o context m fragments).result = .ok text →
      Carrying plainHeads m.children fragments → Carries (plainHeads m) text.toList := by
    intro m fragments text here each
    rw [plainHeads, Node.shownTexts_eq]
    have carried := convert_carries here each fun c _ => unbroken c
    exact carried.sublist ((picked_sublist m).append (List.Sublist.refl _))
  exact fold_carries (fun m fragments text here _ each => keeps m fragments text here (each rfl)) n h
    (unbroken n)

/-! ## Definitions that are attached -/

theorem listDepth_congr (parents : Parents) (same : n'.key = n.key) :
    parents.listDepth n' = parents.listDepth n := by
  unfold Parents.listDepth Parents.ancestors
  cases parents.entries.length with
  | zero => rfl
  | succ steps => rw [Parents.climb, Parents.climb, Parents.of?, Parents.of?, same]

theorem cellCount_reattached (h : Node.Reattached n n') : cellCount n' = cellCount n := by
  obtain ⟨key, pairs, left, right, -⟩ := h
  rename_i b b'
  have bare : ∀ b : Body Node, cellCount ⟨key, b.bare⟩ = cellCount ⟨key, b⟩ := by
    intro b
    cases b <;> rfl
  rw [← bare b, ← bare b', left, right]
  cases pairs with
  | tableRow cells => simp [cellCount, Node.body, Body.map]
  | styled style content => cases style <;> rfl
  | _ => rfl

theorem grid_congr {rows rows' : List Node}
    (each : List.Forall₂ (fun n n' => cellCount n' = cellCount n) rows rows')
    (alignments : Option (List (Option Alignment))) (fragments : List String) :
    grid rows' alignments fragments = grid rows alignments fragments := by
  cases each with
  | nil => rfl
  | cons first _ => simp only [grid, List.head?_cons, first]

theorem convert_reattached (h : Node.Reattached n n') (fragments : List String) :
    convert o context n' fragments = convert o context n fragments := by
  obtain ⟨key, pairs, left, right, each⟩ := h
  rename_i b b'
  have bare : ∀ b : Body Node,
      convert o context ⟨key, b.bare⟩ fragments = convert o context ⟨key, b⟩ fragments := by
    intro b
    cases b <;> rfl
  rw [← bare b, ← bare b', left, right]
  cases pairs with
  | list marking tight items =>
    have depth : context.parents.listDepth ⟨key, .list marking tight (items.map Prod.snd)⟩ =
        context.parents.listDepth ⟨key, .list marking tight (items.map Prod.fst)⟩ :=
      listDepth_congr context.parents rfl
    exact congrArg (fun depth => pure (listing o depth marking tight fragments)) depth
  | table header rows alignments =>
    have reattached := forall₂_map_pairs each
    rw [← Body.children_map, ← Body.children_map] at reattached
    have counts := reattached.imp fun _ _ => cellCount_reattached
    exact congrArg Outcome.ofExcept (grid_congr counts alignments fragments)
  | _ => rfl

theorem transcode_reattached (o : MarkdownOptions) (context : Context) (h : Node.Reattached n n') :
    transcode o context n' = transcode o context n :=
  fold_reattached (fun _ _ fragments h => convert_reattached h fragments) h

/-! ## Definitions of entries -/

/-- What a text that a document is rendered to says of the footnotes. -/
structure KeepsDefinitions (o : MarkdownOptions) (root : Node) (text : String) : Prop where
  /-- A definition in the text is written with all its content, referenced or not. -/
  whole : ∀ n ∈ inText root, ∀ label content, n.body = .footnoteDefinition label content →
    ∃ fragments, (content.mapM (transcode o (Context.of root))).result = .ok fragments ∧
      (transcode o (Context.of root) n).result =
        .ok (footnoteDefinition label (joinBlocks fragments))
  /-- All of them are written where they stand. -/
  inPlace : InOrder (headsInPlace root) text
  entries : ∀ entry ∈ (Index.ofRoot root).entries, InPlace root entry → Defines text entry
  /-- With any other definitions in references and any other captions, but with the numbers that the
  footnotes have, the text would be the same. -/
  attached : ∀ other, Node.Reattached root other →
    (transcode o (Context.of root) other).result.map (tidy o) = .ok text

/-- **The definitions in the text are kept, and those in references are lost.** -/
theorem render_definitions (rendered : (render o root).result = .ok text) :
    KeepsDefinitions o root text := by
  rw [render_result] at rendered
  obtain ⟨body, transcoded, rfl⟩ : ∃ body,
      (transcode o (Context.of root) root).result = .ok body ∧ tidy o body = text := by
    cases transcoded : (transcode o (Context.of root) root).result with
    | error e =>
      rw [transcoded] at rendered
      cases rendered
    | ok body =>
      rw [transcoded] at rendered
      exact ⟨body, rfl, Except.ok.inj rendered⟩
  have carried : Carries ((headsInPlace root).map String.toList) (tidy o body).toList := by
    have plain : ∀ t ∈ plainHeads root, _ := fun t ht => plain_of_mem ht
    have kept := (transcode_carries transcoded).tidy o
      (fun t ht => ⟨(plain t ht).1.1, (plain t ht).1.2.1⟩) fun t ht => (plain t ht).2
    rwa [plainHeads, Node.shownTexts_picked] at kept
  constructor
  case whole => exact fun n hn label content hb => transcode_definition transcoded hn hb
  case inPlace => exact carried.inOrder
  case entries =>
    rintro entry - ⟨label, content, hl, nonempty, plain, n, hn, hb⟩
    have marker : entry.marker = label := by
      have given : given? (some label) = some label :=
        Option.filter_eq_some_iff.2 ⟨rfl, by simpa using nonempty⟩
      rw [Entry.marker, hl, given]
      rfl
    have here : definitionHead label ∈ headsInPlace root := by
      refine List.mem_filterMap.2 ⟨n, hn, ?_⟩
      simp [plainHead?, hb, plain]
    obtain ⟨before, after, split⟩ := carried.infix_of_mem (List.mem_map_of_mem here)
    refine ⟨String.ofList before, String.ofList after, ?_⟩
    rw [marker, ← String.toList_inj, ← split]
    simp
  case attached =>
    intro other reattached
    rw [transcode_reattached o _ reattached, rendered]

/-- A footnote with its definition in a quote. -/
def register : Node :=
  ⟨0, .document
    [⟨1, .footnoteReference (some "a") none⟩,
      ⟨2, .blockQuote [⟨3, .footnoteDefinition "a" [⟨4, .text "note"⟩]⟩]⟩]⟩

theorem register_definitions :
    (render .standard register).result = .ok "[^a]\n\n> [^a]: note" ∧
      InOrder ["[^a]:"] "[^a]\n\n> [^a]: note" := by
  have tidied : tidy .standard "[^a]\n\n> [^a]: note" = "[^a]\n\n> [^a]: note" := by decide
  have rendered : (render .standard register).result = .ok "[^a]\n\n> [^a]: note" := by
    have transcoded : (transcode .standard (Context.of register) register).result =
        .ok "[^a]\n\n> [^a]: note" := by
      simp [transcode, Node.fold_eq, register, Node.children, Body.children, Node.body, Node.key,
        convert, MarkdownOptions.standard]
      rfl
    rw [render_result, transcoded]
    exact congrArg Except.ok tidied
  have kept := (render_definitions rendered).inPlace
  have heads : headsInPlace register = ["[^a]:"] := by cbv
  rw [heads] at kept
  exact ⟨rendered, kept⟩

/-- Two footnotes that are defined where they are called, one of them under a label. -/
def aside : Node :=
  ⟨0, .document
    [⟨1, .paragraph
      [⟨2, .text "x"⟩, ⟨3, .footnoteReference none (some [⟨4, .text "note"⟩])⟩,
        ⟨5, .footnoteReference (some "b") (some [⟨6, .text "more"⟩])⟩] []⟩]⟩

/-- Neither has a definition in the text. -/
theorem aside_incomplete :
    (render .standard aside).result = .ok "x[^1][^b]" ∧ ¬ Complete .standard aside := by
  have tidied : tidy .standard "x[^1][^b]" = "x[^1][^b]" := by decide
  have rendered : (render .standard aside).result = .ok "x[^1][^b]" := by
    have transcoded : (transcode .standard (Context.of aside) aside).result =
        .ok "x[^1][^b]" := by
      cbv
    rw [render_result, transcoded]
    exact congrArg Except.ok tidied
  have entry : ⟨1, none, [⟨4, .text "note"⟩]⟩ ∈ (Index.ofRoot aside).entries := by
    have entries : (Index.ofRoot aside).entries =
        [⟨1, none, [⟨4, .text "note"⟩]⟩, ⟨2, some "b", [⟨6, .text "more"⟩]⟩] := by
      cbv
    rw [entries]
    exact List.mem_cons_self
  refine ⟨rendered, fun complete => ?_⟩
  obtain ⟨before, after, split⟩ := complete _ rendered _ entry
  have colon : ':' ∈ "x[^1][^b]".toList := by
    rw [split]
    simp [definitionHead]
  exact absurd colon (by decide)

end Manuscript.Markdown
