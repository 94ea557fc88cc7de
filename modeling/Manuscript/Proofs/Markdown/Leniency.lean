import Manuscript.Proofs.Document.Steps
import Manuscript.Proofs.Leanpub.Strictness
import Manuscript.Proofs.Markdown.Fault

/-!
# Raw markup that generic Markdown leaves out

Options can forbid to leave anything out. Generic Markdown leaves out raw markup of most formats,
whatever its options say:

* `Drops`: a raw node that is written as nothing when a document is rendered;
* `Honours`: what the option promises for a document;
* `forbidding_ignored`: the option makes no difference, so that the promise is kept for those
  documents alone of which nothing is left out.
-/

namespace Manuscript

/-- The same options, with anything forbidden to be left out or not. -/
def MarkdownOptions.forbidding (o : MarkdownOptions) (forbidden : Bool) : MarkdownOptions :=
  { o with failOnDropped := forbidden }

namespace Markdown

variable {o : MarkdownOptions} {context : Context} {n root : Node} {fragments : List String}

/-- Raw markup of a format that is not passed through. -/
def isForeign (n : Node) : Bool :=
  match n.body with
  | .rawBlock format _ | .rawInline format _ => !isPassedThrough format
  | _ => false

/-- The node is written when the document is rendered, and is written as nothing. -/
structure Drops (o : MarkdownOptions) (root n : Node) : Prop where
  taken : ∃ fragments, Node.Takes (convert o (Context.of root)) n fragments root
  foreign : isForeign n = true

/-- What is promised if nothing may be left out: where something would be, there is a failure, and
elsewhere there is no difference. -/
structure Honours (o : MarkdownOptions) (root : Node) : Prop where
  refused : (∃ n, Drops (o.forbidding false) root n) →
    ∃ kind reason, (render (o.forbidding true) root).result = .error (.dropped kind reason)
  otherwise : (∀ n, ¬ Drops (o.forbidding false) root n) →
    render (o.forbidding true) root = render (o.forbidding false) root

/-- What comes of it. -/
structure Ignored (o : MarkdownOptions) (root : Node) : Prop where
  /-- What is forbidden makes no difference to the text, to a failure or to the reports. -/
  same : render (o.forbidding true) root = render (o.forbidding false) root
  accepted : ∀ kind reason, (render (o.forbidding true) root).result ≠ .error (.dropped kind reason)
  lost : ∀ n, Drops (o.forbidding false) root n → ∀ fragments,
    (convert (o.forbidding true) (Context.of root) n fragments).result = .ok ""
  /-- The blocks that are left out are reported, nothing else is. -/
  reported : ∀ format, .droppedRaw format ∈
      (transcode (o.forbidding true) (Context.of root) root).log ↔
    ∃ n markup, Drops (o.forbidding false) root n ∧ n.body = .rawBlock format markup
  honoured : Honours o root ↔ ∀ n, ¬ Drops (o.forbidding false) root n

theorem convert_forbidding (o : MarkdownOptions) (forbidden : Bool) :
    convert (o.forbidding forbidden) = convert o := by
  funext context n fragments
  exact Leanpub.convert_failOnDropped o forbidden context n fragments

theorem render_forbidding (o : MarkdownOptions) (forbidden : Bool) (root : Node) :
    render (o.forbidding forbidden) root = render o root := by
  unfold render transcode
  rw [convert_forbidding]
  rfl

theorem convert_of_isForeign (foreign : isForeign n = true) :
    (convert o context n fragments).result = .ok "" := by
  obtain ⟨key, body⟩ := n
  cases body with
  | rawBlock format markup =>
    have unpassed : isPassedThrough format = false := by simpa [isForeign, Node.body] using foreign
    simp only [convert, Node.body, unpassed]
    rfl
  | rawInline format markup =>
    have unpassed : isPassedThrough format = false := by simpa [isForeign, Node.body] using foreign
    simp only [convert, Node.body, unpassed]
    rfl
  | _ => cases foreign

theorem mem_log_convert_iff {format : String} :
    .droppedRaw format ∈ (convert o context n fragments).log ↔
      ∃ markup, n.body = .rawBlock format markup ∧ isPassedThrough format = false := by
  obtain ⟨key, body⟩ := n
  cases body with
  | rawBlock format' markup =>
    by_cases passed : isPassedThrough format'
    · have silent : (convert o context ⟨key, .rawBlock format' markup⟩ fragments).log = [] := by
        simp only [convert, Node.body, passed]
        rfl
      simp only [silent, List.not_mem_nil, Node.body, Body.rawBlock.injEq, false_iff]
      rintro ⟨_, ⟨rfl, -⟩, unpassed⟩
      rw [passed] at unpassed
      cases unpassed
    · have reported : (convert o context ⟨key, .rawBlock format' markup⟩ fragments).log =
          [.droppedRaw format'] := by
        simp only [convert, Node.body, passed]
        rfl
      simp only [reported, List.mem_singleton, Event.droppedRaw.injEq, Node.body,
        Body.rawBlock.injEq]
      constructor
      · rintro rfl
        exact ⟨markup, ⟨rfl, rfl⟩, Bool.eq_false_iff.2 passed⟩
      · rintro ⟨_, ⟨rfl, -⟩, -⟩
        rfl
  | _ =>
    constructor
    · intro reported
      cases reported
    · rintro ⟨_, same, -⟩
      cases same

theorem render_ne_dropped (o : MarkdownOptions) (root : Node) (kind : Kind) (reason : DropReason) :
    (render o root).result ≠ .error (.dropped kind reason) := by
  intro h
  rw [render_result] at h
  cases written : (transcode o (Context.of root) root).result with
  | ok text =>
    rw [written] at h
    cases h
  | error e =>
    rw [written] at h
    cases h
    obtain ⟨n, fragments, -, fails⟩ := exists_taken_of_error written
    cases fault_of_convert fails with
    | reference key _ nameless =>
      obtain ⟨_, -, same⟩ := labelFor_eq_error nameless
      cases same

theorem mem_log_transcode_iff {format : String} :
    .droppedRaw format ∈ (transcode o (Context.of root) root).log ↔
      ∃ n markup, Drops o root n ∧ n.body = .rawBlock format markup := by
  rw [transcode, mem_log_fold_iff]
  constructor
  · rintro ⟨n, fragments, taken, reported⟩
    obtain ⟨markup, hb, unpassed⟩ := mem_log_convert_iff.1 reported
    have foreign : isForeign n = true := by simp [isForeign, hb, unpassed]
    exact ⟨n, markup, ⟨⟨fragments, taken⟩, foreign⟩, hb⟩
  · rintro ⟨n, markup, ⟨⟨fragments, taken⟩, foreign⟩, hb⟩
    have unpassed : isPassedThrough format = false := by simpa [isForeign, hb] using foreign
    exact ⟨n, fragments, taken, mem_log_convert_iff.2 ⟨markup, hb, unpassed⟩⟩

theorem drops_forbidding (o : MarkdownOptions) (forbidden : Bool) (root n : Node) :
    Drops (o.forbidding forbidden) root n ↔ Drops o root n := by
  constructor
  · rintro ⟨taken, foreign⟩
    rw [convert_forbidding] at taken
    exact ⟨taken, foreign⟩
  · rintro ⟨taken, foreign⟩
    rw [← convert_forbidding o forbidden] at taken
    exact ⟨taken, foreign⟩

/-- **What is forbidden to leave out makes no difference to generic Markdown.** -/
theorem forbidding_ignored (o : MarkdownOptions) (root : Node) : Ignored o root := by
  have same : render (o.forbidding true) root = render (o.forbidding false) root := by
    rw [render_forbidding, render_forbidding]
  have accepted := render_ne_dropped (o.forbidding true) root
  constructor
  case same => exact same
  case accepted => exact accepted
  case lost => exact fun n drops fragments => convert_of_isForeign drops.foreign
  case reported =>
    intro format
    rw [mem_log_transcode_iff]
    simp only [drops_forbidding]
  case honoured =>
    constructor
    · intro kept n drops
      obtain ⟨kind, reason, refused⟩ := kept.refused ⟨n, drops⟩
      exact accepted kind reason refused
    · intro complete
      refine ⟨?_, fun _ => same⟩
      rintro ⟨n, drops⟩
      exact absurd drops (complete n)

/-- Raw markup of two foreign formats, one before a word in its line and one below. -/
def pamphlet : Node :=
  ⟨0, .document
    [⟨1, .paragraph [⟨2, .rawInline "rtf" "\\b"⟩, ⟨3, .text "word"⟩] []⟩,
      ⟨4, .rawBlock "tex" "\\newpage"⟩]⟩

/-- Both are left out although nothing may be. -/
theorem pamphlet_accepted :
    (∃ n markup, Drops (MarkdownOptions.standard.forbidding false) pamphlet n ∧
      n.body = .rawInline "rtf" markup) ∧
    (∃ n markup, Drops (MarkdownOptions.standard.forbidding false) pamphlet n ∧
      n.body = .rawBlock "tex" markup) ∧
    (render (MarkdownOptions.standard.forbidding true) pamphlet).result = .ok "word" ∧
    ¬ Honours .standard pamphlet := by
  have rtf : isPassedThrough "rtf" = false := by decide
  have tex : isPassedThrough "tex" = false := by decide
  have escaped : escape "word" = "word" := by decide
  have tidied : tidy .standard "word" = "word" := by decide
  have written : transcode .standard (Context.of pamphlet) pamphlet =
      ⟨[.droppedRaw "tex"], .ok "word"⟩ := by
    simp [transcode, Node.fold_eq, pamphlet, Node.children, Body.children, convert, Node.body, rtf,
      tex, MarkdownOptions.standard, escaped, Text.joinBlocks, Text.joinNonempty]
    rfl
  have inline : Drops (MarkdownOptions.standard.forbidding false) pamphlet
      ⟨2, .rawInline "rtf" "\\b"⟩ :=
    ⟨⟨[], .first rfl (.first rfl (.here rfl))⟩, by decide⟩
  have block : ∃ n markup, Drops (MarkdownOptions.standard.forbidding false) pamphlet n ∧
      n.body = .rawBlock "tex" markup := by
    simp only [drops_forbidding]
    rw [← mem_log_transcode_iff, written]
    exact List.mem_cons_self
  have accepted : (render (MarkdownOptions.standard.forbidding true) pamphlet).result =
      .ok "word" := by
    rw [render_forbidding, render_result, written]
    exact congrArg Except.ok tidied
  refine ⟨⟨_, _, inline, rfl⟩, block, accepted, fun kept => ?_⟩
  obtain ⟨kind, reason, refused⟩ := kept.refused ⟨_, inline⟩
  rw [accepted] at refused
  cases refused

end Markdown

end Manuscript
