import Manuscript.Leanpub.Render
import Manuscript.Proofs.Leanpub.Attribute
import Manuscript.Proofs.Markdown.Fault

/-!
# What writing a node asks for

To write a node of a book its children are written, and for an image the caption around it, which is
no part of the image. `Calls` is this relation between nodes.

* `convert_congr`: of what renders captions only the caption that an image shows matters;
* `error_of_convert`, `caption_of_convert`: a node fails by itself or with that caption, and is
  written only with it.
-/

namespace Manuscript.Leanpub.Export

variable {x : Export} {n : Node}

/-- The node is written as an image. -/
def ShowsCaption (x : Export) (n : Node) : Prop :=
  x.rules.find? n.kind = some .link ∧
    ∃ target content title, n.body = .link target content title ∧
      linkUse x.options target = .image

/-- Writing the node asks for the other one: a child, or part of the caption that is shown. -/
inductive Calls (x : Export) (n : Node) : Node → Prop where
  | child {c : Node} (h : c ∈ n.children) : Calls x n c
  | caption {c : Node} (shows : x.ShowsCaption n) (h : c ∈ x.captionAround n) : Calls x n c

/-- The node by itself cannot be written, even if its caption can. -/
def Fails (x : Export) (n : Node) (e : RenderError) : Prop :=
  ∃ fragments, (x.convert (fun _ => pure "") n fragments).result = .error e

theorem apply_congr {renderCaption renderCaption' : List Node → Outcome RenderError String}
    {rule : Rule} (same : rule = .link → ∀ target content title,
      n.body = .link target content title → linkUse x.options target = .image →
        renderCaption (x.captionAround n) = renderCaption' (x.captionAround n))
    (fragments : List String) :
    x.apply renderCaption rule n fragments = x.apply renderCaption' rule n fragments := by
  cases rule with
  | link =>
    simp only [apply]
    cases found : n.target with
    | error e => rfl
    | ok target =>
      obtain ⟨content, title, hb⟩ := Node.target_eq_ok_iff.1 found
      show x.link renderCaption n target _ = x.link renderCaption' n target _
      unfold link
      cases use : linkUse x.options target with
      | image => simp only [same rfl target content title hb use]
      | _ => rfl
  | _ => rfl

theorem convert_congr {renderCaption renderCaption' : List Node → Outcome RenderError String}
    (same : x.ShowsCaption n →
      renderCaption (x.captionAround n) = renderCaption' (x.captionAround n))
    (fragments : List String) :
    x.convert renderCaption n fragments = x.convert renderCaption' n fragments := by
  unfold convert ruleFor
  cases rule : x.rules.find? n.kind with
  | none => rfl
  | some r =>
    simp only [pure_bind]
    refine apply_congr (fun link target content title hb use => same ?_) fragments
    exact ⟨link ▸ rule, target, content, title, hb, use⟩

/-- An image is written when its caption is. -/
theorem convert_image {target : Target} {content : List Node} {title : Option String}
    (ruled : x.rules.find? n.kind = some .link) (link : n.body = .link target content title)
    (image : linkUse x.options target = .image)
    (renderCaption : List Node → Outcome RenderError String) (fragments : List String) :
    x.convert renderCaption n fragments =
      renderCaption (x.captionAround n) >>= fun caption =>
        pure (inlineImage (imageAddress x.environment target) caption) := by
  have found : n.target = .ok target := Node.target_eq_ok_iff.2 ⟨content, title, link⟩
  rw [convert, ruleFor, ruled, pure_bind, apply, found]
  show x.link renderCaption n target _ = _
  rw [Export.link, image]

theorem convert_of_showsCaption (shows : x.ShowsCaption n)
    (renderCaption : List Node → Outcome RenderError String) (fragments : List String) :
    ∃ address, x.convert renderCaption n fragments =
      renderCaption (x.captionAround n) >>= fun caption => pure (inlineImage address caption) := by
  obtain ⟨ruled, target, content, title, link, image⟩ := shows
  exact ⟨_, convert_image ruled link image renderCaption fragments⟩

theorem error_of_convert {renderCaption : List Node → Outcome RenderError String}
    {fragments : List String} {e : RenderError}
    (h : (x.convert renderCaption n fragments).result = .error e) :
    x.ShowsCaption n ∧ (renderCaption (x.captionAround n)).result = .error e ∨ x.Fails n e := by
  by_cases shows : x.ShowsCaption n
  · obtain ⟨address, written⟩ := convert_of_showsCaption shows renderCaption fragments
    rw [written] at h
    rcases Outcome.bind_result_eq_error_iff.1 h with fails | ⟨_, -, h⟩
    · exact .inl ⟨shows, fails⟩
    · cases h
  · have same : x.convert renderCaption n fragments = x.convert (fun _ => pure "") n fragments :=
      convert_congr (fun s => absurd s shows) fragments
    exact .inr ⟨fragments, same ▸ h⟩

theorem caption_of_convert {renderCaption : List Node → Outcome RenderError String}
    {fragments : List String} {text : String} (shows : x.ShowsCaption n)
    (h : (x.convert renderCaption n fragments).result = .ok text) :
    ∃ caption, (renderCaption (x.captionAround n)).result = .ok caption := by
  obtain ⟨address, written⟩ := convert_of_showsCaption shows renderCaption fragments
  rw [written] at h
  obtain ⟨caption, rendered, -⟩ := Outcome.bind_result_eq_ok_iff.1 h
  exact ⟨caption, rendered⟩

/-- Whether there is a rule for a node is reported and has no part in the result. -/
theorem convert_result (x : Export) (renderCaption : List Node → Outcome RenderError String)
    (n : Node) (fragments : List String) :
    (x.convert renderCaption n fragments).result =
      (x.apply renderCaption ((x.rules.find? n.kind).getD .generic) n fragments).result := by
  unfold convert ruleFor
  cases x.rules.find? n.kind <;> rfl

/-- Where content may be left out, leaving it out gives nothing. -/
theorem drop_result_of_lenient (lenient : x.options.failOnDropped = false) (n : Node)
    (reason : DropReason) : (x.drop n reason).result = .ok "" := by
  rw [drop, lenient]
  rfl

theorem dropped_of_drop {reason : DropReason} {e : RenderError}
    (h : (x.drop n reason).result = .error e) :
    x.options.failOnDropped = true ∧ ∃ reason, e = .dropped n.kind reason := by
  unfold drop at h
  split at h
  next strict =>
    cases h
    exact ⟨strict, reason, rfl⟩
  next => cases h

theorem dropped_of_link {target : Target} {description : String} {e : RenderError}
    (h : (x.link (fun _ => pure "") n target description).result = .error e) :
    x.options.failOnDropped = true ∧ ∃ reason, e = .dropped n.kind reason := by
  unfold link at h
  split at h
  case h_5 => exact dropped_of_drop h
  all_goals cases h

/-- A rule that suits a node fails where nothing may be left out, or as generic Markdown does. -/
theorem fault_of_apply {rule : Rule} {fragments : List String} {e : RenderError}
    (h : (x.apply (fun _ => pure "") rule n fragments).result = .error e) :
    (x.options.failOnDropped = true ∧ ∃ reason, e = .dropped n.kind reason) ∨
      Markdown.Fault x.context n e ∨ ¬ rule.Suits n ∧ Foreign x.context n e := by
  cases rule with
  | codeBlock =>
    refine .inr (.inr ?_)
    rcases except_bind_eq_error h with missing | ⟨_, -, h⟩
    · exact ⟨fun suits => by simp [Rule.Suits, missing] at suits,
        foreign_of_noAttribute (Node.error_of_language missing)⟩
    · rcases except_bind_eq_error h with missing | ⟨_, -, h⟩
      · obtain ⟨named, noText⟩ := Node.error_of_contentWith missing
        exact ⟨fun suits => noText suits.2, foreign_of_noAttribute named⟩
      · cases h
  | literalBlock | mathInline =>
    refine .inr (.inr ?_)
    rcases except_bind_eq_error h with missing | ⟨_, -, h⟩
    · obtain ⟨named, noText⟩ := Node.error_of_contentWith missing
      exact ⟨noText, foreign_of_noAttribute named⟩
    · cases h
  | plainText =>
    obtain ⟨named | rfl, noText⟩ := Node.error_of_plainContent h
    · exact .inr (.inr ⟨noText, foreign_of_noAttribute named⟩)
    · exact .inr (.inr ⟨noText, .text⟩)
  | heading =>
    rcases Outcome.bind_result_eq_error_iff.1 h with fails | ⟨_, -, h⟩
    · exact .inr (.inl (Markdown.fault_of_convert fails))
    · rcases Outcome.bind_result_eq_error_iff.1 h with missing | ⟨_, -, h⟩
      · have missing : n.identifier = .error e := missing
        exact .inr (.inr ⟨by simp [Rule.Suits, missing],
          foreign_of_noAttribute (Node.error_of_identifier missing)⟩)
      · cases h
  | link =>
    rcases Outcome.bind_result_eq_error_iff.1 h with missing | ⟨_, -, h⟩
    · have missing : n.target = .error e := missing
      exact .inr (.inr ⟨by simp [Rule.Suits, missing],
        foreign_of_noAttribute (Node.error_of_target missing)⟩)
    · exact .inl (dropped_of_link h)
  | footnoteReference =>
    rcases except_bind_eq_error h with missing | ⟨label, identified, h⟩
    · refine .inr (.inr ⟨?_, foreign_of_noAttribute (Node.error_of_identifier missing)⟩)
      rintro ⟨key, calls⟩
      obtain ⟨label, identified⟩ := Node.exists_identifier_of_footnoteKey? calls
      rw [identified] at missing
      cases missing
    · have nameless := except_map_eq_error h
      rcases Node.footnoteKey?_of_identifier identified with other | calls
      · exact .inr (.inr ⟨by simp [Rule.Suits, other], .label nameless⟩)
      · exact .inr (.inl (.reference _ calls nameless))
  | suppress => exact .inl (dropped_of_drop h)
  | generic => exact .inr (.inl (Markdown.fault_of_convert h))
  | omitDefinition | own => cases h

/-- What fails by itself would be left out where nothing may be, is nothing that generic Markdown
can write, or has a rule that does not suit it. -/
theorem fault_of_fails {e : RenderError} (h : x.Fails n e) :
    (x.options.failOnDropped = true ∧ ∃ reason, e = .dropped n.kind reason) ∨
      Markdown.Fault x.context n e ∨
      (∃ rule, x.rules.find? n.kind = some rule ∧ ¬ rule.Suits n) ∧ Foreign x.context n e := by
  obtain ⟨fragments, h⟩ := h
  rw [convert_result] at h
  rcases fault_of_apply h with dropped | fault | ⟨unsuited, foreign⟩
  · exact .inl dropped
  · exact .inr (.inl fault)
  · cases ruled : x.rules.find? n.kind with
    | none =>
      rw [ruled] at unsuited
      exact absurd trivial unsuited
    | some rule =>
      rw [ruled] at unsuited
      exact .inr (.inr ⟨⟨rule, rfl, unsuited⟩, foreign⟩)

end Manuscript.Leanpub.Export
