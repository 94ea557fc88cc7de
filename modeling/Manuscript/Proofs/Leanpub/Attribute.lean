import Manuscript.Leanpub.Export
import Manuscript.Proofs.Outcome

/-!
# Rules on nodes of other kinds

A table may hold any rule for any kind of nodes. A rule fails on a node that does not have what the
rule asks for:

* `Rule.Suits`: the node has all that the rule asks for;
* `Foreign`: the failures of rules on nodes that they do not suit;
* `suits_leanpub`: the rules of a book suit the nodes that they are called on.
-/

namespace Manuscript

namespace Node

variable {n : Node} {e : RenderError}

theorem target_eq_ok_iff {target : Target} :
    n.target = .ok target ↔ ∃ content title, n.body = .link target content title := by
  unfold Node.target
  split
  next other content title hb => simp [hb]
  next noLink => simpa [lacks] using fun content title hb => noLink _ _ _ hb

theorem error_of_language (h : n.language = .error e) :
    ∃ typeName name, e = .noAttribute typeName name := by
  unfold Node.language at h
  split at h <;> cases h
  exact ⟨_, _, rfl⟩

theorem error_of_identifier (h : n.identifier = .error e) :
    ∃ typeName name, e = .noAttribute typeName name := by
  unfold Node.identifier at h
  split at h <;> cases h
  exact ⟨_, _, rfl⟩

theorem error_of_target (h : n.target = .error e) :
    ∃ typeName name, e = .noAttribute typeName name := by
  unfold Node.target at h
  split at h <;> cases h
  exact ⟨_, _, rfl⟩

theorem error_of_content (h : n.content = .error e) :
    ∃ typeName name, e = .noAttribute typeName name := by
  unfold Node.content at h
  split at h <;> cases h
  exact ⟨_, _, rfl⟩

/-- The node's content is a text. -/
def HasText (n : Node) : Prop := ∃ s, n.content = .ok (.text s)

theorem error_of_contentWith {method : String} (h : n.contentWith method = .error e) :
    (∃ typeName name, e = .noAttribute typeName name) ∧ ¬ n.HasText := by
  rcases except_bind_eq_error h with missing | ⟨content, found, h⟩
  · exact ⟨error_of_content missing, by simp [HasText, missing]⟩
  · cases content <;> cases h
    exact ⟨⟨_, _, rfl⟩, by simp [HasText, found]⟩

theorem error_of_plainContent (h : n.plainContent = .error e) :
    ((∃ typeName name, e = .noAttribute typeName name) ∨ e = .noText) ∧ ¬ n.HasText := by
  rcases except_bind_eq_error h with missing | ⟨content, found, h⟩
  · exact ⟨.inl (error_of_content missing), by simp [HasText, missing]⟩
  · cases content <;> cases h
    exact ⟨.inr rfl, by simp [HasText, found]⟩

/-- A reference is identified by its label. -/
theorem footnoteKey?_of_identifier {label : Option String} (identified : n.identifier = .ok label) :
    n.footnoteKey? = none ∨ n.footnoteKey? = some (Footnote.keyOf label n.key) := by
  unfold Node.footnoteKey?
  split
  next label' _ hb =>
    rw [Node.identifier, hb] at identified
    cases identified
    exact .inr rfl
  next => exact .inl rfl

theorem exists_identifier_of_footnoteKey? {key : Footnote.Key} (calls : n.footnoteKey? = some key) :
    ∃ label, n.identifier = .ok label := by
  unfold Node.footnoteKey? at calls
  split at calls
  next label _ hb => exact ⟨label, by rw [Node.identifier, hb]⟩
  next => cases calls

end Node

namespace Leanpub

/-- The node has all that the rule asks for. -/
def Rule.Suits (n : Node) : Rule → Prop
  | .codeBlock => (∃ language, n.language = .ok language) ∧ n.HasText
  | .literalBlock | .mathInline | .plainText => n.HasText
  | .heading => ∃ identifier, n.identifier = .ok identifier
  | .link => ∃ target, n.target = .ok target
  | .footnoteReference => ∃ key, n.footnoteKey? = some key
  | .omitDefinition | .suppress | .generic | .own .. => True

/-- The failures of a rule on a node that it does not suit. -/
inductive Foreign (context : Context) (n : Node) : RenderError → Prop where
  | attribute (typeName name : String) : Foreign context n (.noAttribute typeName name)
  | text : Foreign context n .noText
  /-- No footnote goes by what the node is identified by. -/
  | label {label : Option String} {e : RenderError}
      (nameless : context.labelFor (Footnote.keyOf label n.key) = .error e) : Foreign context n e

theorem foreign_of_noAttribute {context : Context} {n : Node} {e : RenderError}
    (h : ∃ typeName name, e = .noAttribute typeName name) : Foreign context n e := by
  obtain ⟨typeName, name, rfl⟩ := h
  exact .attribute typeName name

theorem suits_leanpub {n : Node} {rule : Rule} (h : RuleTable.leanpub.find? n.kind = some rule) :
    rule.Suits n := by
  obtain ⟨key, body⟩ := n
  cases body with
  | styled style content => cases style <;> cases h
  | heading level content identifier =>
    cases h
    exact ⟨identifier, rfl⟩
  | codeBlock language code =>
    cases h
    exact ⟨⟨language, rfl⟩, code, rfl⟩
  | literalBlock kind literal =>
    cases h
    exact ⟨literal, rfl⟩
  | text content =>
    cases h
    exact ⟨content, rfl⟩
  | mathInline formula =>
    cases h
    exact ⟨formula, rfl⟩
  | link target content title =>
    cases h
    exact ⟨target, rfl⟩
  | footnoteReference label definition =>
    cases h
    exact ⟨_, rfl⟩
  | footnoteDefinition | table | rawBlock | rawInline =>
    cases h
    exact trivial
  | _ => cases h

end Leanpub

end Manuscript
