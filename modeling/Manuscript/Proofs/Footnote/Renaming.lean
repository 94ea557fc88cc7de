import Manuscript.Proofs.Document.Refilled
import Manuscript.Proofs.Footnote.Entries

/-!
# Footnotes of documents that differ in what is left out

No footnote is called or defined in what is left out, so that two such documents have the same
footnotes, up to the names of anonymous ones:

* `Key.rename`: a footnote in a document with renamed keys;
* `Refilled.called_eq`, `Counterparts.notes`: counterparts call the same footnotes, and what refers
  to footnotes or defines them has its counterpart;
* `contentOf_refilled`: the contents of a footnote correspond;
* `ofRoot_keys_refilled`, `ofRoot_entries_refilled`: so do the numbers and the entries.
-/

namespace Manuscript

open Footnote

namespace Footnote

/-- The footnote in a document whose nodes have renamed keys. -/
def Key.rename (rename : Nat → Nat) : Key → Key
  | .label l => .label l
  | .anonymous reference => .anonymous (rename reference)

variable {rename : Nat → Nat}

theorem Key.rename_injective (injective : Function.Injective rename) :
    Function.Injective (Key.rename rename) := by
  rintro (label | reference) (label' | reference') same
  · exact same
  · cases same
  · cases same
  · simp only [Key.rename, Key.anonymous.injEq] at same
    rw [injective same]

theorem keyOf_rename (label : Option String) (key : Nat) :
    keyOf label (rename key) = (keyOf label key).rename rename := by
  unfold keyOf
  cases given? label <;> rfl

end Footnote

namespace Node

variable {rename : Nat → Nat} {root root' n n' : Node}

/-- The references and definitions in a node, in document order. -/
def notes (n : Node) : List Node :=
  n.preorder.filter fun m => m.kind == .footnoteReference || m.kind == .footnoteDefinition

theorem notes_eq (n : Node) :
    n.notes = ([n].filter fun m => m.kind == .footnoteReference || m.kind == .footnoteDefinition) ++
      n.parts.flatMap notes := by
  rw [notes, preorder_eq, ← List.singleton_append, List.filter_append, List.filter_flatMap]
  rfl

theorem FootnoteFree.notes_eq_nil (free : n.FootnoteFree) : n.notes = [] := by
  refine List.filter_eq_nil_iff.2 fun m hm => ?_
  obtain ⟨reference, definition⟩ := free m hm
  simp [reference, definition]

theorem footnoteKey?_eq_none (kind : n.kind ≠ .footnoteReference) : n.footnoteKey? = none := by
  obtain ⟨key, body⟩ := n
  cases body with
  | footnoteReference label definition => exact absurd rfl kind
  | _ => rfl

theorem definition?_eq_none (reference : n.kind ≠ .footnoteReference)
    (definition : n.kind ≠ .footnoteDefinition) : n.definition? = none := by
  obtain ⟨key, body⟩ := n
  cases body with
  | footnoteReference label content => exact absurd rfl reference
  | footnoteDefinition label content => exact absurd rfl definition
  | _ => rfl

theorem FootnoteFree.called_eq_nil (free : n.FootnoteFree) : n.called = [] := by
  induction n using Node.induction with
  | step n ih =>
    have below : n.parts.flatMap called = [] := by
      refine List.flatMap_eq_nil_iff.2 fun c hc => ih c hc fun m hm => free m ?_
      exact mem_preorder_iff.2 (.inr ⟨c, hc, hm⟩)
    obtain ⟨reference, definition⟩ := free n n.self_mem_preorder
    rw [called_eq, if_neg definition, footnoteKey?_eq_none reference]
    exact below

theorem ne_note_of_isLeftOut (kind : n.kind.isLeftOut = true) :
    n.kind ≠ .footnoteReference ∧ n.kind ≠ .footnoteDefinition := by
  constructor <;> intro note <;> rw [note] at kind <;> cases kind

theorem attached_eq_nil_of_isLeftOut (kind : n.kind.isLeftOut = true) : n.attached = [] := by
  obtain ⟨key, body⟩ := n
  cases body with
  | paragraph content caption => cases kind
  | footnoteReference label definition => cases kind
  | _ => rfl

theorem Refilled.footnoteKey?_eq (h : Refilled rename n n') :
    n'.footnoteKey? = n.footnoteKey?.map (Key.rename rename) := by
  cases h with
  | same key pairs below =>
    cases pairs with
    | footnoteReference label definition => exact congrArg some (keyOf_rename label key)
    | _ => rfl
  | leftOut kind kind' _ _ =>
    have note := (ne_note_of_isLeftOut kind).1
    rw [footnoteKey?_eq_none note, footnoteKey?_eq_none (kind' ▸ note)]
    rfl

theorem Refilled.called_eq (h : Refilled rename n n') :
    n'.called = n.called.map (Key.rename rename) := by
  induction h with
  | leftOut _ _ free free' =>
    rw [free.called_eq_nil, free'.called_eq_nil]
    rfl
  | same key pairs below ih =>
    have here : Refilled rename ⟨key, pairs.map Prod.fst⟩ ⟨rename key, pairs.map Prod.snd⟩ :=
      .same key pairs below
    rw [Node.called_eq, Node.called_eq ⟨key, pairs.map Prod.fst⟩, here.kind_eq,
      here.footnoteKey?_eq]
    split
    · rfl
    · cases footnoteKey? ⟨key, pairs.map Prod.fst⟩ with
      | some footnote => rfl
      | none =>
        simp only [Option.map_none, parts, body, Body.parts_map, List.flatMap_map, List.map_flatMap]
        exact List.flatMap_congr ih

namespace Counterparts

/-- Counterparts are left out, or they have the same body with counterparts below it. -/
theorem leftOut_or_same (h : Counterparts rename root root' n n') :
    (n.kind.isLeftOut = true ∧ n'.kind = n.kind ∧ n.FootnoteFree ∧ n'.FootnoteFree) ∨
      ∃ (key : Nat) (pairs : Body (Node × Node)),
        n = ⟨key, pairs.map Prod.fst⟩ ∧ n' = ⟨rename key, pairs.map Prod.snd⟩ ∧
          ∀ q ∈ pairs.parts, Counterparts rename root root' q.1 q.2 := by
  cases refilled : h.refilled with
  | leftOut kind kind' free free' => exact .inl ⟨kind, kind', free, free'⟩
  | same key pairs below => exact .inr ⟨key, pairs, rfl, rfl, fun q hq => h.part below hq⟩

theorem notes (h : Counterparts rename root root' n n') :
    List.Forall₂ (Counterparts rename root root') n.notes n'.notes := by
  induction h.refilled with
  | leftOut _ _ free free' =>
    rw [free.notes_eq_nil, free'.notes_eq_nil]
    exact .nil
  | same key pairs below ih =>
    rw [Node.notes_eq, Node.notes_eq ⟨rename key, pairs.map Prod.snd⟩]
    refine List.rel_append ?_ ?_
    · refine List.rel_filter (fun m m' same => ?_) (.cons h .nil)
      simp only [same.refilled.kind_eq]
    · simp only [parts, body, Body.parts_map]
      exact forall₂_flatMap (forall₂_map_pairs fun q hq => ih q hq (h.part below hq))

theorem attached (h : Counterparts rename root root' n n') :
    List.Forall₂ (Counterparts rename root root') n.attached n'.attached := by
  rcases h.leftOut_or_same with ⟨kind, kind', -, -⟩ | ⟨key, pairs, rfl, rfl, below⟩
  · rw [attached_eq_nil_of_isLeftOut kind, attached_eq_nil_of_isLeftOut (kind' ▸ kind)]
    exact .nil
  · simp only [Node.attached, body, Body.attached_map]
    exact forall₂_map_pairs fun q hq => below q (List.mem_append_right _ hq)

end Counterparts

end Node

namespace Footnote

open Node

variable {rename : Nat → Nat} {root root' n n' : Node}

theorem definitions_eq_notes (root : Node) :
    root.definitions = root.notes.filterMap definition? := by
  rw [definitions, places_eq_preorder, notes, List.filterMap_filter]
  refine List.filterMap_congr fun n _ => ?_
  split
  · rfl
  · next other =>
    simp only [Bool.or_eq_true, beq_iff_eq, not_or] at other
    exact definition?_eq_none other.1 other.2

theorem find?_notes (root : Node) (reference : Nat) :
    (root.preorder.find? fun n => n.footnoteKey? == some (.anonymous reference)) =
      root.notes.find? fun n => n.footnoteKey? == some (.anonymous reference) := by
  rw [notes, List.find?_filter]
  congr 1
  funext n
  by_cases kind : n.kind = .footnoteReference
  · rw [kind]
    simp [Bool.beq_eq_decide_eq]
  · simp [kind, footnoteKey?_eq_none kind]

/-- What counterparts define has the same label and contents that correspond. -/
theorem definition?_counterparts (h : Counterparts rename root root' n n') :
    Option.Rel (fun d d' => d.1 = d'.1 ∧ List.Forall₂ (Counterparts rename root root') d.2 d'.2)
      n.definition? n'.definition? := by
  rcases h.leftOut_or_same with ⟨kind, kind', -, -⟩ | ⟨key, pairs, rfl, rfl, below⟩
  · obtain ⟨reference, definition⟩ := ne_note_of_isLeftOut kind
    rw [definition?_eq_none reference definition,
      definition?_eq_none (kind' ▸ reference) (kind' ▸ definition)]
    exact .none
  · cases pairs with
    | footnoteDefinition label content =>
      exact .some ⟨rfl, forall₂_map_pairs fun q hq => below q (List.mem_append_left _ hq)⟩
    | footnoteReference label content =>
      cases content with
      | none => exact .none
      | some content =>
        simp only [definition?, body, Body.map, Option.map_some]
        cases given? label with
        | none => exact .none
        | some l => exact .some ⟨rfl, forall₂_map_pairs fun q hq => below q hq⟩
    | _ => exact .none

theorem definitions_refilled (h : Refilled rename root root') :
    List.Forall₂
      (fun d d' => d.1 = d'.1 ∧ List.Forall₂ (Counterparts rename root root') d.2 d'.2)
      root.definitions root'.definitions := by
  rw [definitions_eq_notes, definitions_eq_notes]
  exact List.rel_filterMap (fun _ _ same => definition?_counterparts same)
    (Counterparts.root h).notes

/-- The contents of a footnote correspond. -/
theorem contentOf_refilled (injective : Function.Injective rename) (h : Refilled rename root root')
    (key : Key) :
    Option.Rel (List.Forall₂ (Counterparts rename root root')) (contentOf root key)
      (contentOf root' (key.rename rename)) := by
  cases key with
  | label l => exact lookup_rel (definitions_refilled h) l
  | anonymous reference =>
    have same : ∀ n n', Counterparts rename root root' n n' →
        (n'.footnoteKey? == some (.anonymous (rename reference))) =
          (n.footnoteKey? == some (.anonymous reference)) := by
      intro n n' h
      have renamed : some (Key.anonymous (rename reference)) =
          (some (Key.anonymous reference)).map (Key.rename rename) := rfl
      rw [Bool.eq_iff_iff, beq_iff_eq, beq_iff_eq, h.refilled.footnoteKey?_eq, renamed]
      exact (Option.map_injective (Key.rename_injective injective)).eq_iff
    rw [Key.rename, contentOf, contentOf, find?_notes, find?_notes]
    exact optionRel_map (fun _ _ related => related.attached)
      (find?_rel same (Counterparts.root h).notes)

/-- Nodes that correspond call the same footnotes. -/
theorem flatMap_called {nodes nodes' : List Node}
    (h : List.Forall₂ (Counterparts rename root root') nodes nodes') :
    nodes'.flatMap called = (nodes.flatMap called).map (Key.rename rename) := by
  induction h with
  | nil => rfl
  | cons first _ ih =>
    rw [List.flatMap_cons, List.flatMap_cons, List.map_append, first.refilled.called_eq, ih]

theorem successors_refilled (injective : Function.Injective rename)
    (h : Refilled rename root root') (key : Key) :
    successors root' (key.rename rename) = (successors root key).map (Key.rename rename) := by
  have contents := contentOf_refilled injective h key
  unfold successors
  generalize contentOf root key = nodes at contents ⊢
  generalize contentOf root' (key.rename rename) = nodes' at contents ⊢
  cases contents with
  | none => rfl
  | some contents => exact flatMap_called contents

theorem children_refilled (document : root.kind = .document) (h : Refilled rename root root') :
    List.Forall₂ (Counterparts rename root root') root.children root'.children := by
  rcases (Counterparts.root h).leftOut_or_same with ⟨kind, -⟩ | ⟨key, pairs, here, here', below⟩
  · rw [document] at kind
    cases kind
  · have children : root.children = pairs.children.map Prod.fst :=
      here ▸ pairs.children_map Prod.fst
    have children' : root'.children = pairs.children.map Prod.snd :=
      here' ▸ pairs.children_map Prod.snd
    rw [children, children']
    exact forall₂_map_pairs fun q hq => below q (List.mem_append_left _ hq)

theorem roots_refilled (document : root.kind = .document) (h : Refilled rename root root') :
    roots root' = (roots root).map (Key.rename rename) := by
  have labels : root'.definitions.map (fun d => Key.label d.1) =
      root.definitions.map fun d => Key.label d.1 := by
    have same : List.Forall₂ (· = ·) (root.definitions.map fun d => Key.label d.1)
        (root'.definitions.map fun d => Key.label d.1) :=
      List.rel_map (fun _ _ same => congrArg Key.label same.1) (definitions_refilled h)
    exact (List.forall₂_eq_eq_eq ▸ same).symm
  have unnamed : ∀ key ∈ (root.definitions.map fun d => Key.label d.1).eraseDups,
      key.rename rename = key := by
    intro key hk
    obtain ⟨d, -, rfl⟩ := List.mem_map.1 (List.mem_eraseDups.1 hk)
    rfl
  rw [roots, roots, labels, flatMap_called (children_refilled document h), List.map_append,
    List.map_congr_left unnamed, List.map_id']

namespace Index

/-- The footnotes have the same numbers. -/
theorem ofRoot_keys_refilled (injective : Function.Injective rename)
    (document : root.kind = .document) (h : Refilled rename root root')
    (coherent : root.Coherent) (coherent' : root'.Coherent) :
    (ofRoot root').keys = (ofRoot root).keys.map (Key.rename rename) := by
  have search := (ofRoot_search coherent).order.map (Key.rename_injective injective)
    (successors_refilled injective h)
  rw [← roots_refilled document h] at search
  exact (ofRoot_search coherent').order.unique search

theorem number?_refilled (injective : Function.Injective rename)
    (document : root.kind = .document) (h : Refilled rename root root')
    (coherent : root.Coherent) (coherent' : root'.Coherent) (key : Key) :
    (ofRoot root').number? (key.rename rename) = (ofRoot root).number? key := by
  refine Option.ext fun number => ?_
  rw [number?_eq_some_iff (nodup_keys coherent), number?_eq_some_iff (nodup_keys coherent'),
    ofRoot_keys_refilled injective document h coherent coherent']
  refine exists_congr fun i => and_congr_right fun _ => ?_
  rw [List.getElem?_map]
  exact (Option.map_injective (Key.rename_injective injective)).eq_iff (b := some key)

/-- Two entries under the same number and label, whose contents correspond. -/
structure SameEntry (rename : Nat → Nat) (root root' : Node) (entry entry' : Entry) : Prop where
  number : entry'.number = entry.number
  label : entry'.label = entry.label
  content : List.Forall₂ (Counterparts rename root root') entry.content entry'.content

theorem ofRoot_entries_refilled (injective : Function.Injective rename)
    (document : root.kind = .document) (h : Refilled rename root root')
    (coherent : root.Coherent) (coherent' : root'.Coherent) :
    List.Forall₂ (SameEntry rename root root') (ofRoot root).entries (ofRoot root').entries := by
  rw [(ofRoot_faithful coherent).entries_eq, (ofRoot_faithful coherent').entries_eq,
    ofRoot_keys_refilled injective document h coherent coherent', List.zipIdx_map]
  have places : List.Forall₂ (fun place place' => place' = (place.1.rename rename, place.2))
      (ofRoot root).keys.zipIdx
      ((ofRoot root).keys.zipIdx.map (Prod.map (Key.rename rename) id)) := by
    rw [List.forall₂_map_right_iff]
    exact List.forall₂_same.2 fun _ _ => rfl
  refine List.rel_filterMap (fun place place' same => ?_) places
  subst same
  exact optionRel_map (fun _ _ contents => ⟨rfl, by cases place.1 <;> rfl, contents⟩)
    (contentOf_refilled injective h place.1)

end Index

end Footnote

end Manuscript
