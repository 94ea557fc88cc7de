import Mathlib
import Manuscript.Proofs.Footnote.InForce
import Manuscript.Proofs.Leanpub.Termination

/-!
# Which books can be rendered

Where content may be left out, the rules of a book leave out what they cannot express. All that is
left to fail is a reference without a label and without a number, and references in a definition of
a label that does not count have none:

* `labelFor_of_fails`: a node that fails by itself is a reference with nothing to be printed by;
* `rendered_iff_inForce`: a book is rendered exactly if every anonymous reference that is written is
  in force.
-/

namespace Manuscript.Leanpub.Export

open Footnote

variable {root : Node} {x : Export}

theorem not_fails_of_kind (rules : x.rules = .leanpub) (lenient : x.options.failOnDropped = false)
    {n : Node} (kind : n.kind = .codeBlock ∨ n.kind = .literalBlock ∨ n.kind = .table)
    {e : RenderError} : ¬ x.Fails n e := by
  -- These kinds have rules of their own, so that generic Markdown never meets them.
  rintro ⟨fragments, h⟩
  rw [convert_result, rules] at h
  obtain ⟨key, body⟩ := n
  cases body with
  | codeBlock language code => exact nomatch (h : Except.ok _ = .error e)
  | literalBlock form literal => exact nomatch (h : Except.ok _ = .error e)
  | table header rows alignments =>
    have strict := (dropped_of_drop h).1
    rw [lenient] at strict
    cases strict
  | styled style content => cases style <;> rcases kind with kind | kind | kind <;> cases kind
  | _ => rcases kind with kind | kind | kind <;> cases kind

/-- By the rules of a book only a reference fails that has nothing to be printed by. -/
theorem labelFor_of_fails (rules : x.rules = .leanpub) (lenient : x.options.failOnDropped = false)
    {n : Node} {e : RenderError} (h : x.Fails n e) :
    ∃ key, n.footnoteKey? = some key ∧ x.context.labelFor key = .error e := by
  have other := fun kind => not_fails_of_kind rules lenient kind h
  rcases fault_of_fails h with ⟨strict, -⟩ | fault | ⟨⟨rule, ruled, unsuited⟩, -⟩
  · rw [lenient] at strict
    cases strict
  · cases fault with
    | fence kind => exact absurd (kind.imp_right .inl) other
    | rows kind => exact absurd (.inr (.inr kind)) other
    | cells kind => exact absurd (.inr (.inr kind)) other
    | alignments kind => exact absurd (.inr (.inr kind)) other
    | alignment kind => exact absurd (.inr (.inr kind)) other
    | reference key calls nameless => exact ⟨key, calls, nameless⟩
  · rw [rules] at ruled
    exact absurd (suits_leanpub ruled) unsuited

/-- A reference that is written has something to be printed by. -/
theorem labelFor_of_convert (rules : x.rules = .leanpub) {n : Node} {key : Key}
    (calls : n.footnoteKey? = some key) {renderCaption : List Node → Outcome RenderError String}
    {fragments : List String} {text : String}
    (h : (x.convert renderCaption n fragments).result = .ok text) :
    ∃ label, x.context.labelFor key = .ok label := by
  rw [convert_result, rules] at h
  obtain ⟨k, body⟩ := n
  cases body with
  | footnoteReference label content =>
    cases calls
    have printed : (x.context.labelFor (keyOf label k)).map Markdown.footnoteReference =
        .ok text := h
    cases named : x.context.labelFor (keyOf label k) with
    | ok text => exact ⟨text, named⟩
    | error e =>
      rw [named] at printed
      cases printed
  | _ => cases calls

theorem numbered_of_transcode (unshared : root.Unshared) (looked : x.context = Context.of root)
    (rules : x.rules = .leanpub) {r : Node} (hr : r ∈ root.preorder)
    (anonymous : r.footnoteKey? = some (.anonymous r.key)) {text : String}
    (h : (x.transcode r).result = .ok text) : .anonymous r.key ∈ (Index.ofRoot root).keys := by
  rw [transcode_eq unshared looked hr] at h
  obtain ⟨fragments, -, h⟩ := Outcome.bind_result_eq_ok_iff.1 h
  obtain ⟨label, named⟩ := labelFor_of_convert rules anonymous h
  rw [looked, Context.labelFor] at named
  refine Index.exists_numberFor_iff.1 ?_
  cases found : (Context.of root).numberFor (.anonymous r.key) with
  | ok number => exact ⟨number, rfl⟩
  | error e =>
    rw [found] at named
    cases named

/-- A node that fails by itself is an anonymous reference without a number. -/
theorem unnumbered_of_fails (looked : x.context = Context.of root) (rules : x.rules = .leanpub)
    (lenient : x.options.failOnDropped = false) {n : Node} {e : RenderError} (h : x.Fails n e) :
    n.footnoteKey? = some (.anonymous n.key) ∧ .anonymous n.key ∉ (Index.ofRoot root).keys ∧
      e = .unnumbered (.anonymous n.key) := by
  obtain ⟨key, calls, nameless⟩ := labelFor_of_fails rules lenient h
  obtain ⟨reference, rfl, rfl⟩ := Markdown.labelFor_eq_error nameless
  obtain rfl := key_eq_of_footnoteKey? calls
  refine ⟨calls, fun numbered => ?_, rfl⟩
  obtain ⟨number, numbered⟩ := Index.exists_numberFor_iff.2 numbered
  rw [looked, Context.labelFor, numbered] at nameless
  cases nameless

section

variable {options : LeanpubOptions} {environment : Environment}

/-- All anonymous references that a rendered book is written from are in force. -/
theorem inForce_of_render (document : root.kind = .document) (unshared : root.Unshared)
    {text : String} (h : (Leanpub.render options .leanpub environment root).result = .ok text)
    {r : Node} (written : Written ⟨options, .leanpub, environment, Context.of root⟩ r)
    (anonymous : r.footnoteKey? = some (.anonymous r.key)) : InForce root r := by
  rw [render_result] at h
  have inside := written.mem_preorder unshared rfl
  obtain ⟨_, transcoded⟩ := written_of_render unshared rfl h written
  have numbered := numbered_of_transcode unshared rfl rfl inside anonymous transcoded
  exact (Index.mem_keys_anonymous_iff document unshared.coherent inside anonymous).1 numbered

/-- A book that cannot be rendered is written from one that is not. -/
theorem not_inForce_of_render (document : root.kind = .document) (unshared : root.Unshared)
    (lenient : options.failOnDropped = false) {e : RenderError}
    (h : (Leanpub.render options .leanpub environment root).result = .error e) :
    ∃ r, Written ⟨options, .leanpub, environment, Context.of root⟩ r ∧
      r.footnoteKey? = some (.anonymous r.key) ∧ ¬ InForce root r ∧
        e = .unnumbered (.anonymous r.key) := by
  rw [render_result] at h
  obtain ⟨r, written, fails⟩ := fails_of_render unshared rfl h
  have inside := written.mem_preorder unshared rfl
  obtain ⟨anonymous, unnumbered, same⟩ := unnumbered_of_fails rfl rfl lenient fails
  rw [Index.mem_keys_anonymous_iff document unshared.coherent inside anonymous] at unnumbered
  exact ⟨r, written, anonymous, unnumbered, same⟩

theorem exists_text_of_inForce (document : root.kind = .document) (unshared : root.Unshared)
    (lenient : options.failOnDropped = false)
    (force : ∀ r, Written ⟨options, .leanpub, environment, Context.of root⟩ r →
      r.footnoteKey? = some (.anonymous r.key) → InForce root r) :
    ∃ text, (Leanpub.render options .leanpub environment root).result = .ok text := by
  cases h : (Leanpub.render options .leanpub environment root).result with
  | ok text => exact ⟨text, rfl⟩
  | error e =>
    obtain ⟨r, written, anonymous, out, -⟩ := not_inForce_of_render document unshared lenient h
    exact absurd (force r written anonymous) out

end

/-- How rendering ends with the rules of a book. -/
structure RenderedInForce (options : LeanpubOptions) (environment : Environment) (root : Node) :
    Prop where
  rendered : (∃ text, (Leanpub.render options .leanpub environment root).result = .ok text) ↔
    ∀ r, Written ⟨options, .leanpub, environment, Context.of root⟩ r →
      r.footnoteKey? = some (.anonymous r.key) → InForce root r
  /-- If it fails, then for a reference that is not in force. -/
  failed : ∀ e, (Leanpub.render options .leanpub environment root).result = .error e →
    ∃ r, Written ⟨options, .leanpub, environment, Context.of root⟩ r ∧
      r.footnoteKey? = some (.anonymous r.key) ∧ ¬ InForce root r ∧
        e = .unnumbered (.anonymous r.key)
  /-- It cannot fail where no label is defined twice. -/
  distinct : (root.definitions.map Prod.fst).Nodup →
    ∃ text, (Leanpub.render options .leanpub environment root).result = .ok text

/-- **A book is rendered if all references that it writes are in force**, whatever else is in it. -/
theorem rendered_iff_inForce (root : Node) (document : root.kind = .document)
    (unshared : root.Unshared) (options : LeanpubOptions) (lenient : options.failOnDropped = false)
    (environment : Environment) : RenderedInForce options environment root := by
  constructor
  case rendered =>
    constructor
    · rintro ⟨text, h⟩ r written anonymous
      exact inForce_of_render document unshared h written anonymous
    · exact exists_text_of_inForce document unshared lenient
  case failed => exact fun e h => not_inForce_of_render document unshared lenient h
  case distinct =>
    intro distinct
    refine exists_text_of_inForce document unshared lenient fun r written _ => ?_
    exact inForce_of_distinct distinct (written.mem_preorder unshared rfl)

/-- Two definitions of a label with an anonymous reference in the second one. -/
def rival : Node :=
  ⟨0, .document
    [⟨1, .footnoteDefinition "a" [⟨2, .paragraph [⟨3, .text "first"⟩] []⟩]⟩,
      ⟨4, .footnoteDefinition "a"
        [⟨5, .paragraph [⟨6, .footnoteReference none (some [⟨7, .text "aside"⟩])⟩] []⟩]⟩]⟩

theorem rival_unshared : rival.Unshared := by
  simp [Node.Unshared, rival, Node.preorder_eq, Node.parts, Node.body, Body.parts,
    Body.children, Body.attached, Node.key]

theorem rival_rendered : rival.kind = .document ∧ rival.Unshared ∧
    LeanpubOptions.standard.failOnDropped = false ∧
      RenderedInForce .standard ⟨"/home", "/"⟩ rival :=
  ⟨rfl, rival_unshared, rfl,
    rendered_iff_inForce rival rfl rival_unshared .standard rfl ⟨"/home", "/"⟩⟩

/-- The second definition is left out of the text, and still the reference in it is written. -/
theorem rival_fails : rival.Unshared ∧ LeanpubOptions.standard.failOnDropped = false ∧
    (Leanpub.render .standard .leanpub ⟨"/home", "/"⟩ rival).result =
      .error (.unnumbered (.anonymous 6)) :=
  ⟨rival_unshared, rfl, by cbv⟩

end Manuscript.Leanpub.Export
