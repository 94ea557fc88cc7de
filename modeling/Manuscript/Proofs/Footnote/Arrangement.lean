import Manuscript.Proofs.Footnote.Numbering

/-!
# Where definitions stand

A definition in the text is passed over, and it is found wherever it stands. So where every label is
defined once and is called from the text, the index does not depend on where the definitions stand
between the other children of a document:

* `Rearranged`: definitions among the children of a document stand elsewhere among them;
* `Reached`: a footnote that is called in the text, or in the content of one that is reached;
* `follow_append`, `follow_filter`: nodes are followed one after the other, definitions in the text
  are not;
* `ofRoot_of_reached`: where all labels are reached nothing is left to be settled;
* `ofRoot_rearranged`: the index stays the same.
-/

namespace Manuscript.Footnote

open Relation

/-- The second document has the same children as the first one, and those that are no definitions
stand in the same order. -/
structure Rearranged (root root' : Node) : Prop where
  document : root.kind = .document
  document' : root'.kind = .document
  moved : root'.children.Perm root.children
  text : root'.children.filter (·.kind ≠ .footnoteDefinition) =
    root.children.filter (·.kind ≠ .footnoteDefinition)

/-- The footnote is called in the text of a document, or in the content of a footnote that is. -/
def Reached (root : Node) (key : Key) : Prop :=
  ∃ start ∈ root.children.flatMap Node.called,
    ReflTransGen (fun above below => below ∈ successors root above) start key

theorem definitions_of_document {root : Node} (document : root.kind = .document) :
    root.definitions = (root.children.flatMap Node.preorder).filterMap Node.definition? := by
  rw [Node.definitions, Node.places_eq_preorder, Node.preorder_eq,
    List.filterMap_cons_none (Node.undefined_of_document document),
    Node.parts_of_document document]

theorem Rearranged.definitions_perm {root root' : Node} (h : Rearranged root root') :
    root'.definitions.Perm root.definitions := by
  rw [definitions_of_document h.document, definitions_of_document h.document']
  exact (h.moved.flatMap_right _).filterMap _

theorem lookup_eq_some_iff_mem {definitions : List Definition}
    (distinct : (definitions.map Prod.fst).Nodup) {label : String} {nodes : List Node} :
    definitions.lookup label = some nodes ↔ (label, nodes) ∈ definitions := by
  constructor
  · intro found
    obtain ⟨before, after, same, -⟩ := List.lookup_eq_some_iff.1 found
    rw [same]
    simp
  · intro mem
    obtain ⟨before, after, rfl⟩ := List.append_of_mem mem
    refine List.lookup_eq_some_iff.2 ⟨before, after, rfl, fun d hd => ?_⟩
    rw [List.map_append, List.map_cons] at distinct
    have apart := (List.nodup_append.1 distinct).2.2 d.1 (List.mem_map_of_mem hd) label
      List.mem_cons_self
    exact bne_iff_ne.2 (Ne.symm apart)

/-- Where every label is defined once it does not matter in which order. -/
theorem lookup_eq_of_perm {definitions others : List Definition}
    (distinct : (definitions.map Prod.fst).Nodup) (same : others.Perm definitions)
    (label : String) : others.lookup label = definitions.lookup label := by
  have distinct' : (others.map Prod.fst).Nodup := (same.map Prod.fst).nodup_iff.2 distinct
  refine Option.ext fun nodes => ?_
  rw [lookup_eq_some_iff_mem distinct, lookup_eq_some_iff_mem distinct', same.mem_iff]

namespace Index

variable {definitions : List Definition} {root root' : Node}

theorem follow_append (nodes rest : List Node) (index : Index) :
    follow definitions (nodes ++ rest) index =
      follow definitions rest (follow definitions nodes index) := by
  fun_induction follow definitions nodes index with
  | case1 index => rfl
  | case2 n nodes index kind ih =>
    rw [List.cons_append, follow_of_definition kind]
    exact ih
  | case3 n nodes index kind uncalled ih =>
    rw [List.cons_append, follow_of_uncalled kind uncalled, ← List.append_assoc]
    exact ih
  | case4 n nodes index kind call calls old ih =>
    rw [List.cons_append, follow_of_mem kind calls old]
    exact ih
  | case5 n nodes index kind call calls new ih =>
    rw [List.cons_append, follow_of_not_mem kind calls new, ← List.append_assoc]
    exact ih

/-- Definitions among the nodes that are followed may be left out. -/
theorem follow_filter (nodes : List Node) (index : Index) :
    follow definitions (nodes.filter (·.kind ≠ .footnoteDefinition)) index =
      follow definitions nodes index := by
  induction nodes generalizing index with
  | nil => rfl
  | cons n nodes ih =>
    by_cases kind : n.kind = .footnoteDefinition
    · rw [List.filter_cons_of_neg (by simpa using kind), follow_of_definition kind]
      exact ih index
    · rw [List.filter_cons_of_pos (by simpa using kind)]
      calc follow definitions (n :: nodes.filter (·.kind ≠ .footnoteDefinition)) index
          = follow definitions (nodes.filter (·.kind ≠ .footnoteDefinition))
              (follow definitions [n] index) := follow_append [n] _ index
        _ = follow definitions nodes (follow definitions [n] index) := ih _
        _ = follow definitions (n :: nodes) index := (follow_append [n] nodes index).symm

/-- Of the definitions of a document only those matter that are found under their labels. -/
theorem follow_congr {others : List Definition}
    (same : ∀ label, others.lookup label = definitions.lookup label) (nodes : List Node)
    (index : Index) : follow others nodes index = follow definitions nodes index := by
  have calls : ∀ n : Node, n.call? others = n.call? definitions := by
    intro n
    unfold Node.call?
    simp only [same]
  fun_induction follow definitions nodes index with
  | case1 index => exact follow_nil others index
  | case2 n nodes index kind ih => rw [follow_of_definition kind, ih]
  | case3 n nodes index kind uncalled ih =>
    rw [follow_of_uncalled kind ((calls n).trans uncalled), ih]
  | case4 n nodes index kind call found old ih =>
    rw [follow_of_mem kind ((calls n).trans found) old, ih]
  | case5 n nodes index kind call found new ih =>
    rw [follow_of_not_mem kind ((calls n).trans found) new, ih]

/-- A footnote that is reached from the text has a number before any definition is settled. -/
theorem mem_keys_of_reached (coherent : root.Coherent) {key : Key} (h : Reached root key) :
    key ∈ (follow root.definitions root.children empty).keys := by
  have within : ∀ n ∈ root.children, n ∈ root.preorder := fun n hn =>
    Node.mem_preorder_of_mem_parts root.self_mem_preorder (Node.mem_parts_of_mem_children hn)
  have search := (follow_search coherent root.children within empty).order
  obtain ⟨start, called, path⟩ := h
  induction path with
  | refl => exact search.mem called
  | tail _ next ih => exact search.closed ih (by simp [empty]) next

theorem foldl_settle_of_mem {index : Index} {unsettled : List Definition}
    (numbered : ∀ d ∈ unsettled, .label d.1 ∈ index.keys) :
    unsettled.foldl (settle definitions) index = index := by
  induction unsettled with
  | nil => rfl
  | cons d unsettled ih =>
    have idle : settle definitions index d = index := by
      rw [settle, if_pos (numbered d List.mem_cons_self)]
    rw [List.foldl_cons, idle]
    exact ih fun e he => numbered e (List.mem_cons_of_mem d he)

/-- Where all labels are reached from the text nothing is left to be settled. -/
theorem ofRoot_of_reached (coherent : root.Coherent)
    (reached : ∀ label, Defined root label → Reached root (.label label)) :
    ofRoot root = follow root.definitions root.children empty := by
  refine foldl_settle_of_mem fun d hd => ?_
  obtain ⟨n, hn, defines⟩ := Node.mem_definitions_iff.1 hd
  exact mem_keys_of_reached coherent (reached d.1 ⟨n, hn, d.2, defines⟩)

/-- The index does not depend on where the definitions stand. -/
theorem ofRoot_rearranged (h : Rearranged root root') (coherent : root.Coherent)
    (distinct : (root.definitions.map Prod.fst).Nodup)
    (reached : ∀ label, Defined root label → Reached root (.label label)) :
    ofRoot root' = ofRoot root := by
  have same : follow root'.definitions root'.children empty =
      follow root.definitions root.children empty :=
    calc follow root'.definitions root'.children empty
        = follow root.definitions root'.children empty :=
          follow_congr (lookup_eq_of_perm distinct h.definitions_perm) _ _
      _ = follow root.definitions
            (root'.children.filter (·.kind ≠ .footnoteDefinition)) empty :=
          (follow_filter _ _).symm
      _ = follow root.definitions
            (root.children.filter (·.kind ≠ .footnoteDefinition)) empty := by rw [h.text]
      _ = follow root.definitions root.children empty := follow_filter _ _
  rw [ofRoot_of_reached coherent reached, ofRoot, same]
  refine foldl_settle_of_mem fun d hd => ?_
  obtain ⟨n, hn, defines⟩ := Node.mem_definitions_iff.1 (h.definitions_perm.mem_iff.1 hd)
  exact mem_keys_of_reached coherent (reached d.1 ⟨n, hn, d.2, defines⟩)

end Index

end Manuscript.Footnote
