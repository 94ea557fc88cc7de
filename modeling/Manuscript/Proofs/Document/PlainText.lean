import Manuscript.Document.PlainText
import Manuscript.Proofs.Document.Shown

/-!
# Plain text does not depend on nesting

The plain text of a document is joined at every node from the plain texts of its children. What
comes of it is one join of all texts there are:

* `texts`: the contents of all text nodes among the children, in document order, without empty ones;
* `intercalate_flatten`: groups of texts that are joined on their own and then with each other are
  joined as if they were one;
* `intercalate_split`: what stands before and after each of several texts that are joined;
* `plainText_flat`: so the plain text of nodes is their texts, joined once.
-/

namespace Manuscript

/-! ## Joined groups -/

namespace Text

variable {joiner : String}

/-- Groups of texts, none of them without a text, joined group by group. -/
theorem intercalate_flatten {groups : List (List String)} (filled : ∀ g ∈ groups, g ≠ []) :
    joiner.intercalate (groups.map joiner.intercalate) = joiner.intercalate groups.flatten := by
  induction groups with
  | nil => rfl
  | cons g groups ih =>
    have rest := ih fun h hh => filled h (List.mem_cons_of_mem g hh)
    cases groups with
    | nil => simp
    | cons next later =>
      have here : g ≠ [] := filled g List.mem_cons_self
      have there : (next :: later).flatten ≠ [] := by
        have first : next ≠ [] := filled next (List.mem_cons_of_mem g List.mem_cons_self)
        simp [first]
      calc joiner.intercalate ((g :: next :: later).map joiner.intercalate)
          = joiner.intercalate g ++ joiner ++
              joiner.intercalate ((next :: later).map joiner.intercalate) :=
            String.intercalate_cons_of_ne_nil (by simp)
        _ = joiner.intercalate g ++ joiner ++ joiner.intercalate (next :: later).flatten := by
            rw [rest]
        _ = joiner.intercalate (g ++ (next :: later).flatten) :=
            (String.intercalate_append_of_ne_nil here there).symm

/-- Texts that are joined are empty together only if there are none. -/
theorem isEmpty_intercalate {group : List String} (seen : ∀ t ∈ group, t ≠ "") :
    (joiner.intercalate group).isEmpty = group.isEmpty := by
  cases group with
  | nil => rfl
  | cons t rest =>
    have visible : t ≠ "" := seen t List.mem_cons_self
    cases rest with
    | nil => simpa using visible
    | cons next later => simp [visible]

/-- A group without a text takes no part in the joining. -/
theorem joinNonempty_intercalate {groups : List (List String)}
    (seen : ∀ g ∈ groups, ∀ t ∈ g, t ≠ "") :
    joinNonempty joiner (groups.map joiner.intercalate) = joiner.intercalate groups.flatten := by
  have kept : (groups.map joiner.intercalate).filter (fun s => !s.isEmpty) =
      (groups.filter fun g => !g.isEmpty).map joiner.intercalate := by
    rw [List.filter_map]
    congr 1
    apply List.filter_congr
    intro g hg
    rw [Function.comp_apply, isEmpty_intercalate (seen g hg)]
  have filled : ∀ g ∈ groups.filter fun g => !g.isEmpty, g ≠ [] := by
    intro g hg
    simpa using List.of_mem_filter hg
  rw [joinNonempty, kept, intercalate_flatten filled, List.flatten_filter_not_isEmpty]

/-- The joiner stands behind every text before a given one, and before every text after it. -/
theorem intercalate_split (before : List String) (t : String) (after : List String) :
    joiner.intercalate (before ++ t :: after) =
      String.join (before.map (· ++ joiner)) ++ t ++ String.join (after.map (joiner ++ ·)) := by
  have later : ∀ t, joiner.intercalate (t :: after) =
      t ++ String.join (after.map (joiner ++ ·)) := by
    induction after with
    | nil => simp
    | cons next after ih =>
      intro t
      rw [String.intercalate_cons_cons, ih]
      simp [String.append_assoc]
  induction before with
  | nil => simp [later]
  | cons first before ih =>
    rw [List.cons_append, String.intercalate_cons_of_ne_nil (by simp), ih]
    simp [String.append_assoc]

end Text

open Text

/-! ## Texts of nodes -/

/-- The contents of the text nodes at or below a node, in document order, without empty ones. -/
def Node.texts (n : Node) : List String :=
  ((n.shown fun _ => false).filterMap Node.text?).filter fun s => !s.isEmpty

/-- The texts of several nodes. -/
def texts (nodes : List Node) : List String := nodes.flatMap Node.texts

theorem Node.ne_empty_of_mem_texts {n : Node} {t : String} (ht : t ∈ n.texts) : t ≠ "" := by
  simpa using List.of_mem_filter ht

theorem Node.texts_of_text {n : Node} {s : String} (h : n.text? = some s) :
    n.texts = [s].filter fun s => !s.isEmpty := by
  have childless : n.children = [] := by
    obtain ⟨key, body⟩ := n
    cases body <;> simp_all [Node.text?, Node.body, Node.children, Body.children]
  rw [texts, shown_eq, childless]
  simp [h]

theorem Node.texts_of_none {n : Node} (h : n.text? = none) :
    n.texts = Manuscript.texts n.children := by
  rw [texts, shown_eq, List.filterMap_cons_none h, if_neg Bool.false_ne_true,
    List.filterMap_flatMap, List.filter_flatMap]
  rfl

theorem Node.plainText_eq_texts (joiner : String) (n : Node) :
    n.plainText joiner = joiner.intercalate n.texts := by
  induction n using Node.induction with
  | step n ih =>
    rw [plainText_eq]
    cases own : n.text? with
    | some s =>
      rw [texts_of_text own]
      by_cases empty : s = ""
      · simp [empty]
      · simp [empty]
    | none =>
      have below : n.children.map (plainText joiner) =
          (n.children.map texts).map joiner.intercalate := by
        rw [List.map_map]
        apply List.map_congr_left
        intro c hc
        exact ih c (mem_parts_of_mem_children hc)
      have seen : ∀ g ∈ n.children.map texts, ∀ t ∈ g, t ≠ "" := by
        intro g hg t ht
        obtain ⟨c, -, rfl⟩ := List.mem_map.1 hg
        exact ne_empty_of_mem_texts ht
      simp only [below]
      rw [joinNonempty_intercalate seen, texts_of_none own]
      rfl

/-- Several nodes are joined as if they were the children of one. -/
theorem plainText_eq_texts (joiner : String) (nodes : List Node) :
    plainText joiner nodes = joiner.intercalate (texts nodes) := by
  have each : nodes.map (Node.plainText joiner) =
      (nodes.map Node.texts).map joiner.intercalate := by
    rw [List.map_map]
    exact List.map_congr_left fun n _ => n.plainText_eq_texts joiner
  have seen : ∀ g ∈ nodes.map Node.texts, ∀ t ∈ g, t ≠ "" := by
    intro g hg t ht
    obtain ⟨n, -, rfl⟩ := List.mem_map.1 hg
    exact Node.ne_empty_of_mem_texts ht
  rw [plainText, each, joinNonempty_intercalate seen]
  rfl

/-- The text is the texts of the nodes, with the joiner between them and nowhere else. -/
structure Flat (joiner : String) (nodes : List Node) (s : String) : Prop where
  joined : s = joiner.intercalate (texts nodes)
  /-- Every text stands at its place, behind all earlier ones and before all later ones. -/
  places : ∀ before t after, texts nodes = before ++ t :: after →
    s = String.join (before.map (· ++ joiner)) ++ t ++ String.join (after.map (joiner ++ ·))
  /-- How the texts are nested makes no difference. -/
  nesting : ∀ others, texts others = texts nodes → plainText joiner others = s
  /-- A node without text may be taken away. -/
  silent : ∀ before n after, nodes = before ++ n :: after → n.texts = [] →
    plainText joiner (before ++ after) = s

theorem flat_of_joined {joiner : String} {nodes : List Node} {s : String}
    (joined : s = joiner.intercalate (texts nodes)) : Flat joiner nodes s := by
  have nesting : ∀ others, texts others = texts nodes → plainText joiner others = s := by
    intro others same
    rw [plainText_eq_texts, same, joined]
  constructor
  case joined => exact joined
  case nesting => exact nesting
  case places =>
    intro before t after split
    rw [joined, split, intercalate_split]
  case silent =>
    intro before n after split none
    apply nesting
    simp [split, texts, none]

/-- **Plain text is the texts of the nodes, joined once**, however deep they are nested. -/
theorem plainText_flat (joiner : String) :
    (∀ nodes, Flat joiner nodes (plainText joiner nodes)) ∧
      ∀ n : Node, Flat joiner [n] (n.plainText joiner) := by
  constructor
  · intro nodes
    exact flat_of_joined (plainText_eq_texts joiner nodes)
  · intro n
    apply flat_of_joined
    rw [n.plainText_eq_texts, texts, List.flatMap_singleton]

end Manuscript
