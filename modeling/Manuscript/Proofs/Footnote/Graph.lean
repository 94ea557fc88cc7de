import Manuscript.Footnote.Index
import Manuscript.Proofs.Document.Identity

/-!
# The graph of footnotes

What the footnotes of a document are to each other, whatever order they are numbered in. A footnote
leads to the footnotes that are called in its content:

* `Node.called`: the footnotes called in a node, in document order;
* `Footnote.contentOf`: the content that counts for a footnote;
* `Footnote.successors`: the footnotes that a footnote leads to;
* `Footnote.roots`: the footnotes called in the text of a document, and all defined labels;
* `Footnote.Call.Belongs`: a call that says of its footnote what the document says of it.
-/

namespace Manuscript

open Footnote

namespace Node

/-- The footnotes called in a node and below it, in document order. Neither a definition nor what
a reference brings of its own is looked into. -/
def called (n : Node) : List Key :=
  if n.kind = .footnoteDefinition then []
  else match n.footnoteKey? with
    | some key => [key]
    | none => n.parts.attach.flatMap fun ⟨c, _⟩ => called c
termination_by n
decreasing_by exact sizeOf_lt_of_mem_parts ‹_›

theorem called_eq (n : Node) :
    n.called =
      if n.kind = .footnoteDefinition then []
      else match n.footnoteKey? with
        | some key => [key]
        | none => n.parts.flatMap called := by
  rw [called]
  split
  · rfl
  · split
    · rfl
    · exact List.flatMap_subtype (fun _ _ => rfl) |>.trans (by rw [List.unattach_attach])

/-- What is directly below a node that defines a label is what it defines the label to be. -/
theorem parts_of_definition? {n : Node} {label : String} {content : List Node}
    (h : n.definition? = some (label, content)) : n.parts = content := by
  unfold definition? at h
  rw [parts_eq]
  split at h
  next hb =>
    cases h
    simp [children, attached, hb, Body.children, Body.attached]
  next hb =>
    obtain ⟨_, _, same⟩ := Option.map_eq_some_iff.1 h
    cases same
    simp [children, attached, hb, Body.children, Body.attached]
  next => cases h

/-- Nothing is directly below a reference but what it brings of its own. -/
theorem parts_of_footnoteKey? {n : Node} {key : Key} (h : n.footnoteKey? = some key) :
    n.parts = n.attached := by
  unfold footnoteKey? at h
  rw [parts_eq]
  split at h
  next hb => simp [children, hb, Body.children]
  next => cases h

theorem called_of_footnoteKey? {n : Node} {key : Key} (h : n.footnoteKey? = some key) :
    n.called = [key] := by
  rw [called_eq, h]
  unfold footnoteKey? at h
  split at h
  next hb => simp [kind, hb, Body.kind]
  next => cases h

theorem exists_body_of_document {n : Node} (document : n.kind = .document) :
    ∃ children, n.body = .document children := by
  obtain ⟨key, body⟩ := n
  cases body with
  | document children => exact ⟨children, rfl⟩
  | styled style content => cases style <;> cases document
  | _ => cases document

/-- Nothing is attached to a document, and it defines no label. -/
theorem parts_of_document {n : Node} (document : n.kind = .document) : n.parts = n.children := by
  obtain ⟨children, hb⟩ := exists_body_of_document document
  simp [parts_eq, Node.attached, hb, Body.attached]

theorem undefined_of_document {n : Node} (document : n.kind = .document) :
    n.definition? = none := by
  obtain ⟨children, hb⟩ := exists_body_of_document document
  simp [definition?, hb]

theorem mem_definitions_iff {root : Node} {d : Definition} :
    d ∈ root.definitions ↔ ∃ n ∈ root.preorder, n.definition? = some d := by
  rw [definitions, List.mem_filterMap, places_eq_preorder]

end Node

namespace Footnote

/-- The label that a key consists of, if it does. -/
def Key.label? : Key → Option String
  | .label l => some l
  | .anonymous _ => none

/-- The content that counts for a footnote: the first definition of a label in document order, and
what an anonymous reference brings of its own. -/
def contentOf (root : Node) : Key → Option (List Node)
  | .label label => root.definitions.lookup label
  | .anonymous reference =>
    (root.preorder.find? fun n => n.footnoteKey? == some (.anonymous reference)).map Node.attached

/-- The footnotes called in the content of a footnote, in document order. -/
def successors (root : Node) (key : Key) : List Key :=
  ((contentOf root key).getD []).flatMap Node.called

/-- The footnotes called in the text of a document, and then every label that is defined, in the
order of the first definitions. -/
def roots (root : Node) : List Key :=
  root.children.flatMap Node.called ++ (root.definitions.map fun d => .label d.1).eraseDups

/-- Some node of the document defines the label. -/
def Defined (root : Node) (label : String) : Prop :=
  ∃ n ∈ root.preorder, ∃ content, n.definition? = some (label, content)

/-- A call that gives its footnote the label and the content that the document gives it. Only a
label can be without content. -/
structure Call.Belongs (root : Node) (call : Call) : Prop where
  content_eq : call.content = contentOf root call.key
  label_eq : call.label = call.key.label?
  label_of_undefined : call.content = none → ∃ label, call.key = .label label

theorem contentOf_eq_none_iff {root : Node} {label : String} :
    contentOf root (.label label) = none ↔ ¬ Defined root label := by
  rw [contentOf, List.lookup_eq_none_iff]
  constructor
  · rintro absent ⟨n, hn, content, defines⟩
    simpa using absent _ (Node.mem_definitions_iff.2 ⟨n, hn, defines⟩)
  · intro absent d hd
    obtain ⟨n, hn, defines⟩ := Node.mem_definitions_iff.1 hd
    simp only [bne_iff_ne]
    rintro rfl
    exact absent ⟨n, hn, d.2, defines⟩

/-- The content of a footnote stands directly below some node of the document. -/
theorem exists_parent_of_mem_contentOf {root n : Node} {key : Key} {nodes : List Node}
    (h : contentOf root key = some nodes) (hn : n ∈ nodes) :
    ∃ p ∈ root.preorder, n ∈ p.parts := by
  cases key with
  | label label =>
    obtain ⟨before, after, same, -⟩ := List.lookup_eq_some_iff.1 h
    obtain ⟨m, hm, defines⟩ := Node.mem_definitions_iff.1 (same ▸ by simp :
      (label, nodes) ∈ root.definitions)
    exact ⟨m, hm, Node.parts_of_definition? defines ▸ hn⟩
  | anonymous reference =>
    obtain ⟨m, found, rfl⟩ := Option.map_eq_some_iff.1 h
    exact ⟨m, List.mem_of_find?_eq_some found, List.mem_append_right _ hn⟩

theorem mem_preorder_of_mem_contentOf {root n : Node} {key : Key} {nodes : List Node}
    (h : contentOf root key = some nodes) (hn : n ∈ nodes) : n ∈ root.preorder := by
  obtain ⟨p, hp, below⟩ := exists_parent_of_mem_contentOf h hn
  exact Node.mem_preorder_of_mem_parts hp below

theorem key_eq_of_footnoteKey? {n : Node} {reference : Nat}
    (h : n.footnoteKey? = some (.anonymous reference)) : n.key = reference := by
  unfold Node.footnoteKey? keyOf at h
  split at h
  · split at h <;> cases h
    rfl
  · cases h

/-- A label that a reference goes by is not empty. -/
theorem given?_of_footnoteKey? {n : Node} {label : String}
    (h : n.footnoteKey? = some (.label label)) : given? (some label) = some label := by
  unfold Node.footnoteKey? keyOf at h
  split at h
  · split at h
    next found =>
      cases h
      obtain ⟨rfl, nonempty⟩ := Option.filter_eq_some_iff.1 found
      exact Option.filter_eq_some_iff.2 ⟨rfl, nonempty⟩
    next => cases h
  · cases h

/-- In a coherent document an anonymous reference is found again under its key. -/
theorem contentOf_anonymous {root n : Node} (coherent : root.Coherent) (hn : n ∈ root.preorder)
    (h : n.footnoteKey? = some (.anonymous n.key)) :
    contentOf root (.anonymous n.key) = some n.attached := by
  obtain ⟨m, found⟩ := Option.isSome_iff_exists.1
    (List.find?_isSome.2 ⟨n, hn, beq_iff_eq.2 h⟩ :
      (root.preorder.find? fun m => m.footnoteKey? == some (.anonymous n.key)).isSome)
  have same : m = n := by
    have calls := List.find?_some found
    exact coherent m (List.mem_of_find?_eq_some found) n hn
      (key_eq_of_footnoteKey? (beq_iff_eq.1 calls))
  rw [contentOf, found, same]
  rfl

/-- What a node of a document calls belongs to the document. -/
theorem belongs_of_call? {root n : Node} {call : Call} (coherent : root.Coherent)
    (hn : n ∈ root.preorder) (h : n.call? root.definitions = some call) : call.Belongs root := by
  have key := @Node.call?_key root.definitions n
  rw [h] at key
  unfold Node.call? at h
  split at h
  next hb =>
    split at h <;> cases h
    · exact ⟨rfl, rfl, fun _ => ⟨_, rfl⟩⟩
    · have own := contentOf_anonymous coherent hn key.symm
      rw [Node.attached, hb, Body.attached] at own
      exact ⟨own.symm, rfl, fun undefined => by cases undefined⟩
  next => cases h

theorem belongs_of_lookup {root : Node} {label : String} {nodes : List Node}
    (first : root.definitions.lookup label = some nodes) :
    Call.Belongs root ⟨.label label, some label, some nodes⟩ :=
  ⟨first.symm, rfl, fun undefined => by cases undefined⟩

theorem called_of_call? {n : Node} {definitions : List Definition} {call : Call}
    (h : n.call? definitions = some call) : n.called = [call.key] := by
  have key := @Node.call?_key definitions n
  rw [h] at key
  exact Node.called_of_footnoteKey? key.symm

end Footnote

end Manuscript
