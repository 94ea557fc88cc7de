import Mathlib.Data.List.Nodup
import Mathlib.Logic.Relation
import Manuscript.Proofs.DepthFirst
import Manuscript.Proofs.Footnote.Graph

/-!
# Numbering

How the index of a document comes about, step by step, and the order that its numbers follow:

* `Index.Step`: a footnote of the document gets the next number, or an idle definition is reported;
* `Index.Search`: an index made from another by steps that search the graph of footnotes;
* `ofRoot_search`: the index of a document is the result of a search from the roots of its graph;
* `numbered_in_preorder`: the numbers follow the depth-first preorder of the graph.
-/

namespace Manuscript.Footnote.Index

open Relation

/-- One step of the numbering. -/
inductive Step (root : Node) (index : Index) : Index → Prop where
  | add (call : Call) (belongs : call.Belongs root) (new : call.key ∉ index.keys) :
      Step root index (index.add call)
  | report (label : String) :
      Step root index { index with log := index.log ++ [.unreferencedFootnote label] }

/-- `Search root points before after`: a search through `points` leads from one index to the other,
and the numbers are given out in the order of the search. -/
structure Search (root : Node) (points : List Key) (before after : Index) : Prop where
  order : DepthFirst (successors root) points before.keys after.keys
  run : ReflTransGen (Step root) before after

variable {root : Node}

theorem Search.skip {key : Key} {points : List Key} {before after : Index}
    (old : key ∈ before.keys) (h : Search root points before after) :
    Search root (key :: points) before after :=
  ⟨.skip old h.order, h.run⟩

theorem Search.visit {call : Call} {points : List Key} {before after : Index}
    (belongs : call.Belongs root) (new : call.key ∉ before.keys)
    (h : Search root (((call.content.getD []).flatMap Node.called) ++ points)
      (before.add call) after) :
    Search root (call.key :: points) before after := by
  refine ⟨?_, .head (.add call belongs new) h.run⟩
  rw [depthFirst_cons_of_not_mem new, ← depthFirst_append, successors, ← belongs.content_eq,
    ← add_keys]
  exact h.order

theorem Search.append {points others : List Key} {before middle after : Index}
    (h : Search root points before middle) (h' : Search root others middle after) :
    Search root (points ++ others) before after :=
  ⟨depthFirst_append.2 ⟨middle.keys, h.order, h'.order⟩, h.run.trans h'.run⟩

/-- Following nodes of a document searches through the footnotes that they call. -/
theorem follow_search (coherent : root.Coherent) (nodes : List Node)
    (within : ∀ n ∈ nodes, n ∈ root.preorder) (index : Index) :
    Search root (nodes.flatMap Node.called) index (follow root.definitions nodes index) := by
  fun_induction follow root.definitions nodes index with
  | case1 index => exact ⟨.done _, .refl⟩
  | case2 n rest index kind ih =>
    rw [List.flatMap_cons, Node.called_eq, if_pos kind]
    exact ih fun m hm => within m (List.mem_cons_of_mem _ hm)
  | case3 n rest index kind h ih =>
    have none : n.footnoteKey? = none := by
      rw [← @Node.call?_key root.definitions, h]
      rfl
    rw [List.flatMap_cons, Node.called_eq, if_neg kind, none, ← List.flatMap_append]
    apply ih
    intro m hm
    rcases List.mem_append.1 hm with hm | hm
    · exact Node.mem_preorder_of_mem_parts (within n List.mem_cons_self) hm
    · exact within m (List.mem_cons_of_mem _ hm)
  | case4 n rest index kind call h old ih =>
    rw [List.flatMap_cons, called_of_call? h, List.singleton_append]
    exact .skip old (ih fun m hm => within m (List.mem_cons_of_mem _ hm))
  | case5 n rest index kind call h new ih =>
    have belongs := belongs_of_call? coherent (within n List.mem_cons_self) h
    rw [List.flatMap_cons, called_of_call? h, List.singleton_append]
    refine .visit belongs new ?_
    rw [← List.flatMap_append]
    apply ih
    intro m hm
    rcases List.mem_append.1 hm with hm | hm
    · cases content : call.content with
      | none => simp [content] at hm
      | some own =>
        rw [content] at hm
        exact mem_preorder_of_mem_contentOf (belongs.content_eq.symm.trans content) hm
    · exact within m (List.mem_cons_of_mem _ hm)

/-- Settling a definition searches from its label, if no earlier definition of it is pending. -/
theorem settle_search (coherent : root.Coherent) (index : Index) (d : Definition)
    (first : .label d.1 ∉ index.keys → root.definitions.lookup d.1 = some d.2) :
    Search root [.label d.1] index (settle root.definitions index d) := by
  unfold settle
  split
  next old => exact .skip old ⟨.done _, .refl⟩
  next new =>
    have belongs := belongs_of_lookup (first new)
    have within : ∀ n ∈ d.2, n ∈ root.preorder :=
      fun n hn => mem_preorder_of_mem_contentOf belongs.content_eq.symm hn
    obtain ⟨order, run⟩ : Search root [.label d.1]
        { index with log := index.log ++ [.unreferencedFootnote d.1] } _ :=
      .visit belongs new (by simpa using follow_search coherent d.2 within _)
    exact ⟨order, .head (.report d.1) run⟩

theorem lookup_eq_of_unnumbered {index : Index} {before after : List Definition} {d : Definition}
    (numbered : ∀ e ∈ before, .label e.1 ∈ index.keys) (new : .label d.1 ∉ index.keys) :
    (before ++ d :: after).lookup d.1 = some d.2 := by
  refine List.lookup_eq_some_iff.2 ⟨before, after, rfl, fun e he => ?_⟩
  simp only [bne_iff_ne]
  intro same
  exact new (same ▸ numbered e he)

theorem foldl_settle_search (coherent : root.Coherent) (before after : List Definition)
    (all : root.definitions = before ++ after) (index : Index)
    (numbered : ∀ e ∈ before, .label e.1 ∈ index.keys) :
    Search root (after.map fun d => .label d.1) index
      (after.foldl (settle root.definitions) index) := by
  -- Definitions that are settled have a number for good, so one that has none comes first of its
  -- label: what is settled with it is the content that counts.
  induction after generalizing before index with
  | nil => exact ⟨.done _, .refl⟩
  | cons d after ih =>
    have one : Search root [.label d.1] index (settle root.definitions index d) := by
      apply settle_search coherent
      intro new
      rw [all]
      exact lookup_eq_of_unnumbered numbered new
    have settled : ∀ e ∈ before ++ [d], .label e.1 ∈ (settle root.definitions index d).keys := by
      intro e he
      rcases List.mem_append.1 he with he | he
      · exact one.order.grows.subset (numbered e he)
      · obtain rfl := List.mem_singleton.1 he
        exact one.order.mem List.mem_cons_self
    exact one.append (ih (before ++ [d]) (by simp [all]) _ settled)

/-- The index of a document is the result of a search from the roots of its footnotes. -/
theorem ofRoot_search (coherent : root.Coherent) :
    Search root (roots root) empty (ofRoot root) := by
  have text := follow_search coherent root.children
    (fun _ hn => Node.mem_preorder_of_mem_parts root.self_mem_preorder
      (Node.mem_parts_of_mem_children hn)) empty
  have rest := foldl_settle_search coherent [] root.definitions rfl
    (follow root.definitions root.children empty) (by simp)
  exact text.append ⟨depthFirst_eraseDups.2 rest.order, rest.run⟩

theorem nodup_keys (coherent : root.Coherent) : (ofRoot root).keys.Nodup :=
  (ofRoot_search coherent).order.nodup List.nodup_nil

/-- Where no footnote is numbered twice, numbers count the footnotes from one. -/
theorem number?_eq_some_iff {index : Index} (distinct : index.keys.Nodup) {key : Key}
    {number : Nat} :
    index.number? key = some number ↔ ∃ i, number = i + 1 ∧ index.keys[i]? = some key := by
  simp only [number?, Option.map_eq_some_iff, List.idxOf?_eq_some_iff]
  constructor
  · rintro ⟨i, ⟨bound, here, -⟩, rfl⟩
    exact ⟨i, rfl, List.getElem?_eq_some_iff.2 ⟨bound, here⟩⟩
  · rintro ⟨i, rfl, here⟩
    obtain ⟨bound, here⟩ := List.getElem?_eq_some_iff.1 here
    have first : ∀ j (hj : j < i), index.keys[j] ≠ key := by
      intro j hj same
      have : j = i := distinct.getElem_inj_iff.1 (same.trans here.symm)
      omega
    exact ⟨i, ⟨bound, here, first⟩, rfl⟩

theorem number?_isSome_iff {index : Index} {key : Key} :
    (∃ number, index.number? key = some number) ↔ key ∈ index.keys := by
  rw [← Option.isSome_iff_exists, number?, Option.isSome_map, List.isSome_idxOf?]

theorem key_unique {index : Index} (distinct : index.keys.Nodup) {key other : Key} {number : Nat}
    (h : index.number? key = some number) (h' : index.number? other = some number) :
    key = other := by
  obtain ⟨i, rfl, here⟩ := (number?_eq_some_iff distinct).1 h
  obtain ⟨j, same, there⟩ := (number?_eq_some_iff distinct).1 h'
  obtain rfl := Nat.succ.inj same
  exact Option.some.inj (here.symm.trans there)

/-- A label that is defined is a root of the graph and so has a number. -/
theorem number?_of_defined (coherent : root.Coherent) {label : String}
    (defined : Defined root label) :
    ∃ number, (ofRoot root).number? (.label label) = some number := by
  obtain ⟨n, hn, nodes, defines⟩ := defined
  refine number?_isSome_iff.2 ((ofRoot_search coherent).order.mem ?_)
  refine List.mem_append_right _ (List.mem_eraseDups.2 (List.mem_map.2 ⟨(label, nodes), ?_, rfl⟩))
  exact Node.mem_definitions_iff.2 ⟨n, hn, defines⟩

/-- **Numbers follow the graph.** The search from the roots of the graph of footnotes has exactly
one order; its k-th footnote has the number k, and nothing else has a number. -/
theorem numbered_in_preorder (root : Node) (coherent : root.Coherent) :
    ∃ order : List Key,
      (∀ other, DepthFirst (successors root) (roots root) [] other ↔ other = order) ∧
      ∀ key number, (ofRoot root).number? key = some number ↔
        ∃ i, number = i + 1 ∧ order[i]? = some key := by
  have search := (ofRoot_search coherent).order
  refine ⟨(ofRoot root).keys, fun other => ⟨fun h => h.unique search, ?_⟩, fun key number => ?_⟩
  · rintro rfl
    exact search
  · exact number?_eq_some_iff (nodup_keys coherent)

/-- Two footnotes whose definitions call each other, an anonymous reference that stands at two
places and calls one of them, a label that nothing defines, and a definition within a definition
that nothing calls. -/
def entwined : Node :=
  let call key label : Node := ⟨key, .footnoteReference (some label) none⟩
  let aside : Node := ⟨3, .footnoteReference none (some [call 4 "a"])⟩
  ⟨0, .document
    [⟨1, .paragraph [call 2 "b", aside] [call 5 "ghost"]⟩,
      ⟨6, .footnoteDefinition "a" [⟨7, .paragraph [call 8 "b", aside] []⟩]⟩,
      ⟨9, .footnoteDefinition "b"
        [⟨10, .paragraph [call 11 "a"] []⟩, ⟨12, .footnoteDefinition "idle" []⟩]⟩]⟩

theorem entwined_coherent : entwined.Coherent := by
  simp [Node.Coherent, entwined, Node.preorder_eq, Node.parts, Node.body, Body.parts,
    Body.children, Body.attached, Node.key]

theorem entwined_numbered : entwined.Coherent ∧ ∃ order : List Key,
    (∀ other, DepthFirst (successors entwined) (roots entwined) [] other ↔ other = order) ∧
    ∀ key number, (ofRoot entwined).number? key = some number ↔
      ∃ i, number = i + 1 ∧ order[i]? = some key :=
  ⟨entwined_coherent, numbered_in_preorder entwined entwined_coherent⟩

example : (ofRoot entwined).keys =
    [.label "b", .label "a", .anonymous 3, .label "ghost", .label "idle"] := by cbv

end Manuscript.Footnote.Index
