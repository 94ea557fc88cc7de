import Manuscript.Document.Walk

/-!
# Footnotes and their definitions

A footnote is known by its label, or, where a reference carries none, by that reference alone. A
label is defined by a footnote definition or by a definition written into a labelled reference; the
first definition in document order counts.
-/

namespace Manuscript

namespace Footnote

/-- What tells one footnote from another. -/
inductive Key where
  | label (label : String)
  | anonymous (reference : Nat)
deriving DecidableEq, Repr

/-- A label with the content that defines it. -/
abbrev Definition := String × List Node

/-- The footnote a reference calls: its key, its label if it has one, and its content if it is
defined. -/
structure Call where
  key : Key
  label : Option String
  content : Option (List Node)

/-- A label with a text of its own; an empty one counts as none. -/
def given? (label : Option String) : Option String := label.filter fun s => !s.isEmpty

/-- The footnote that a reference with this label calls. -/
def keyOf (label : Option String) (reference : Nat) : Key :=
  match given? label with
  | some l => .label l
  | none => .anonymous reference

end Footnote

open Footnote

namespace Node

/-- The key of the footnote that a reference calls. -/
def footnoteKey? (n : Node) : Option Key :=
  match n.body with
  | .footnoteReference label _ => some (keyOf label n.key)
  | _ => none

/-- The label that a node defines. -/
def definition? (n : Node) : Option Definition :=
  match n.body with
  | .footnoteDefinition label content => some (label, content)
  | .footnoteReference label (some content) => (given? label).map (·, content)
  | _ => none

/-- The footnote that a node calls, its content taken from the definitions of a document unless the
reference is anonymous and brings its own. -/
def call? (definitions : List Definition) (n : Node) : Option Call :=
  match n.body with
  | .footnoteReference label content =>
    match given? label with
    | some l => some ⟨.label l, some l, definitions.lookup l⟩
    | none => some ⟨.anonymous n.key, none, some (content.getD [])⟩
  | _ => none

/-- Every definition of a label below a root, in document order. -/
def definitions (root : Node) : List Definition := root.places.filterMap definition?

theorem call?_key {definitions : List Definition} {n : Node} :
    (n.call? definitions).map Call.key = n.footnoteKey? := by
  unfold call? footnoteKey? keyOf
  split
  · split <;> rfl
  · rfl

/-- What a reference brings of its own is smaller than the reference. -/
theorem weight_attached_lt (n : Node) : weight n.attached < n.size := by
  have := n.size_eq
  rw [parts_eq, weight_append] at this
  omega

/-- A call has a content that is either found under its label or smaller than the reference. -/
theorem content_of_call? {definitions : List Definition} {n : Node} {call : Call}
    (h : n.call? definitions = some call) :
    (∃ l, call.key = .label l ∧ call.content = definitions.lookup l) ∨
      weight (call.content.getD []) < n.size := by
  have small := n.weight_attached_lt
  unfold call? at h
  unfold attached Body.attached at small
  split at h
  next hb =>
    rw [hb] at small
    split at h <;> cases h
    · exact .inl ⟨_, rfl, rfl⟩
    · exact .inr small
  next => cases h

end Node

end Manuscript
