import Manuscript.Event
import Manuscript.Footnote.Definition

/-!
# The footnote index

Footnotes are numbered from one at their first reference in document order. When a footnote is
called for the first time, the references in its definition come next, before the walk goes on;
definitions in the text are passed over. Definitions that no reference reaches follow at the end.
The walk ends because a label is followed only once: `follow` either numbers a label that has a
definition or works off what is left to visit.
-/

namespace Manuscript.Footnote

/-- A footnote in the section of definitions. -/
structure Entry where
  number : Nat
  label : Option String
  content : List Node

/-- A footnote goes by its label, or by its number if it has none. -/
def Entry.marker (entry : Entry) : String := (given? entry.label).getD (toString entry.number)

/-- The footnotes numbered so far, in the order of their numbers, the entries of those that are
defined, and what was reported. -/
structure Index where
  keys : List Key
  entries : List Entry
  log : List Event

namespace Index

def empty : Index := ⟨[], [], []⟩

/-- The number of a footnote. -/
def number? (index : Index) (key : Key) : Option Nat := (index.keys.idxOf? key).map (· + 1)

/-- Gives a footnote the next number, and an entry if it is defined. -/
def add (index : Index) (call : Call) : Index :=
  match call.content with
  | some content =>
    { index with
      keys := index.keys ++ [call.key]
      entries := index.entries ++ [⟨index.keys.length + 1, call.label, content⟩] }
  | none =>
    { index with
      keys := index.keys ++ [call.key]
      log := index.log ++ [.undefinedFootnote (call.label.getD "")] }

/-- How many definitions have a label without a number. -/
def pending (index : Index) (definitions : List Definition) : Nat :=
  definitions.countP fun d => !index.keys.contains (.label d.1)

@[simp] theorem add_keys (index : Index) (call : Call) :
    (index.add call).keys = index.keys ++ [call.key] := by
  unfold add
  split <;> rfl

theorem pending_add_le (definitions : List Definition) (index : Index) (call : Call) :
    (index.add call).pending definitions ≤ index.pending definitions :=
  List.countP_mono_left fun d _ h => by simp_all

theorem pending_add_lt {definitions : List Definition} {index : Index} {call : Call}
    {label : String} {content : List Node} (key : call.key = .label label)
    (defined : definitions.lookup label = some content) (new : call.key ∉ index.keys) :
    (index.add call).pending definitions < index.pending definitions := by
  obtain ⟨before, after, rfl, -⟩ := List.lookup_eq_some_iff.1 defined
  have hb := pending_add_le before index call
  have ha := pending_add_le after index call
  rw [key] at new
  simp only [pending, List.countP_append, List.countP_cons] at hb ha ⊢
  simp only [add_keys, key, List.contains_eq_mem, List.mem_append, new,
    List.mem_singleton] at hb ha ⊢
  simp only [or_true, decide_true, Bool.not_true, decide_false, Bool.not_false, if_true,
    Bool.false_eq_true, if_false]
  omega

/-- Numbers the footnotes called in a list of nodes that are still to be visited. -/
def follow (definitions : List Definition) : List Node → Index → Index
  | [], index => index
  | n :: rest, index =>
    if n.kind = .footnoteDefinition then follow definitions rest index
    else match _h : n.call? definitions with
      | none => follow definitions (n.parts ++ rest) index
      | some call =>
        if call.key ∈ index.keys then follow definitions rest index
        else follow definitions (call.content.getD [] ++ rest) (index.add call)
termination_by nodes index => (index.pending definitions, weight nodes)
decreasing_by
  · exact .right _ (by have := n.size_eq; simp; omega)
  · exact .right _ (by have := n.size_eq; simp; omega)
  · exact .right _ (by have := n.size_eq; simp; omega)
  · have le := pending_add_le definitions index call
    rcases Nat.lt_or_eq_of_le le with lt | eq
    · exact .left _ _ lt
    · rw [eq]
      refine .right _ ?_
      simp only [weight_append, weight_cons]
      rcases Node.content_of_call? ‹_› with ⟨label, key, content⟩ | small
      · cases found : definitions.lookup label with
        | none => rw [content, found]; have := n.size_eq; simp; omega
        | some nodes => exact absurd eq (Nat.ne_of_lt (pending_add_lt key found ‹_›))
      · omega

section
variable {definitions : List Definition} {n : Node} {rest : List Node} {index : Index} {call : Call}

theorem follow_nil (definitions : List Definition) (index : Index) :
    follow definitions [] index = index := by
  rw [follow]

theorem follow_of_definition (kind : n.kind = .footnoteDefinition) :
    follow definitions (n :: rest) index = follow definitions rest index := by
  rw [follow, if_pos kind]

theorem follow_of_uncalled (kind : n.kind ≠ .footnoteDefinition)
    (uncalled : n.call? definitions = none) :
    follow definitions (n :: rest) index = follow definitions (n.parts ++ rest) index := by
  rw [follow, if_neg kind]
  split <;> simp_all

theorem follow_of_mem (kind : n.kind ≠ .footnoteDefinition)
    (calls : n.call? definitions = some call) (old : call.key ∈ index.keys) :
    follow definitions (n :: rest) index = follow definitions rest index := by
  rw [follow, if_neg kind]
  split <;> simp_all

theorem follow_of_not_mem (kind : n.kind ≠ .footnoteDefinition)
    (calls : n.call? definitions = some call) (new : call.key ∉ index.keys) :
    follow definitions (n :: rest) index =
      follow definitions (call.content.getD [] ++ rest) (index.add call) := by
  rw [follow, if_neg kind]
  split <;> simp_all

end

/-- Numbers a definition that no reference has reached, and what it calls. -/
def settle (definitions : List Definition) (index : Index) (definition : Definition) : Index :=
  if .label definition.1 ∈ index.keys then index
  else
    let reported := { index with log := index.log ++ [Event.unreferencedFootnote definition.1] }
    follow definitions definition.2
      (reported.add ⟨.label definition.1, some definition.1, some definition.2⟩)

/-- The index of a document. -/
def ofRoot (root : Node) : Index :=
  root.definitions.foldl (settle root.definitions) (follow root.definitions root.children empty)

end Index

end Manuscript.Footnote
