import Mathlib.Data.List.Forall2
import Manuscript.Proofs.Document.Identity

/-!
# Documents that differ in what is left out

A book shows nothing of tables and of raw markup. Two documents that differ only there have a node
of one for every other node of the other one. The nodes of the second document may have keys of
their own, which a renaming of keys accounts for:

* `Refilled`: the second node is the first one with other tables and other raw markup;
* `Counterparts`: two nodes that stand at the same place of two such documents;
* `forall₂_flatMap`, `lookup_rel`, `find?_rel`: what is collected from lists that correspond, and
  what is found in them, corresponds.
-/

namespace Manuscript

namespace Body

variable {α β : Type}

/-- The same body with something else below it. -/
def map (f : α → β) : Body α → Body β
  | document cs => document (cs.map f)
  | heading level cs identifier => heading level (cs.map f) identifier
  | paragraph cs caption => paragraph (cs.map f) (caption.map f)
  | codeBlock language source => codeBlock language source
  | literalBlock kind literal => literalBlock kind literal
  | blockQuote cs => blockQuote (cs.map f)
  | list marking tight items => list marking tight (items.map f)
  | listItem task cs => listItem task (cs.map f)
  | table header rows alignments => table (header.map f) (rows.map f) alignments
  | tableRow cells => tableRow (cells.map f)
  | tableCell cs => tableCell (cs.map f)
  | thematicBreak => thematicBreak
  | rawBlock format markup => rawBlock format markup
  | footnoteDefinition label cs => footnoteDefinition label (cs.map f)
  | mathBlock formula => mathBlock formula
  | text s => text s
  | styled style cs => styled style (cs.map f)
  | code s => code s
  | link target cs title => link target (cs.map f) title
  | image url alt title => image url alt title
  | lineBreak soft => lineBreak soft
  | rawInline format markup => rawInline format markup
  | footnoteReference label definition => footnoteReference label (definition.map (List.map f))
  | mathInline formula => mathInline formula

theorem map_map {γ : Type} (f : α → β) (g : β → γ) (b : Body α) :
    (b.map f).map g = b.map (g ∘ f) := by
  cases b <;> simp [map, Function.comp_def]

theorem map_id (b : Body α) : b.map id = b := by
  cases b <;> simp [map]

variable (f : α → β) (b : Body α)

@[simp] theorem kind_map : (b.map f).kind = b.kind := by
  cases b with
  | styled style cs => cases style <;> rfl
  | _ => rfl

@[simp] theorem children_map : (b.map f).children = b.children.map f := by
  cases b with
  | table header rows alignments =>
    cases header <;> simp [map, children]
  | _ => rfl

@[simp] theorem attached_map : (b.map f).attached = b.attached.map f := by
  cases b with
  | footnoteReference label definition => cases definition <;> rfl
  | _ => rfl

@[simp] theorem parts_map : (b.map f).parts = b.parts.map f := by
  simp only [parts, children_map, attached_map, List.map_append]

end Body

/-- Kinds of nodes that a book shows nothing of. -/
def Kind.isLeftOut : Kind → Bool
  | .table | .rawBlock | .rawInline => true
  | _ => false

namespace Node

/-- Neither the node nor anything below it is a footnote reference or a footnote definition. -/
def FootnoteFree (n : Node) : Prop :=
  ∀ m ∈ n.preorder, m.kind ≠ .footnoteReference ∧ m.kind ≠ .footnoteDefinition

/-- The second node is the first one with other tables and other raw markup at any places, if no
footnotes stand in them. All other nodes have renamed keys. -/
inductive Refilled (rename : Nat → Nat) : Node → Node → Prop where
  | same (key : Nat) (pairs : Body (Node × Node))
      (below : ∀ q ∈ pairs.parts, Refilled rename q.1 q.2) :
      Refilled rename ⟨key, pairs.map Prod.fst⟩ ⟨rename key, pairs.map Prod.snd⟩
  | leftOut {n n' : Node} (kind : n.kind.isLeftOut = true) (kind' : n'.kind = n.kind)
      (free : n.FootnoteFree) (free' : n'.FootnoteFree) : Refilled rename n n'

variable {rename : Nat → Nat}

theorem Refilled.kind_eq {n n' : Node} (h : Refilled rename n n') : n'.kind = n.kind := by
  cases h with
  | same key pairs below =>
    exact (pairs.kind_map Prod.snd).trans (pairs.kind_map Prod.fst).symm
  | leftOut _ kind' _ _ => exact kind'

/-- Nothing need be put in another's place. -/
theorem Refilled.refl (n : Node) : Refilled id n n := by
  induction n using Node.induction with
  | step n ih =>
    obtain ⟨key, b⟩ := n
    have below : ∀ q ∈ (b.map fun c => (c, c)).parts, Refilled id q.1 q.2 := by
      intro q hq
      rw [Body.parts_map] at hq
      obtain ⟨c, hc, rfl⟩ := List.mem_map.1 hq
      exact ih c hc
    have same := Refilled.same key (b.map fun c => (c, c)) below
    rw [Body.map_map, Body.map_map] at same
    exact (b.map_id ▸ same : Refilled id ⟨key, b⟩ ⟨key, b⟩)

theorem FootnoteFree.of_raw {n : Node} (raw : n.kind = .rawBlock ∨ n.kind = .rawInline) :
    n.FootnoteFree := by
  have leaf : n.parts = [] := by
    obtain ⟨key, body⟩ := n
    cases body with
    | rawBlock format markup => rfl
    | rawInline format markup => rfl
    | styled style content => cases style <;> rcases raw with raw | raw <;> cases raw
    | _ => rcases raw with raw | raw <;> cases raw
  intro m hm
  rw [preorder_eq, leaf, List.flatMap_nil] at hm
  obtain rfl := List.mem_singleton.1 hm
  rcases raw with raw | raw <;> rw [raw] <;> decide

/-- Raw markup may be any other one, as no footnote can stand in it. -/
theorem Refilled.raw {n n' : Node} (raw : n.kind = .rawBlock ∨ n.kind = .rawInline)
    (kind' : n'.kind = n.kind) : Refilled rename n n' := by
  refine .leftOut ?_ kind' (.of_raw raw) (.of_raw (kind' ▸ raw))
  rcases raw with raw | raw <;> rw [raw] <;> rfl

section
variable {α : Type} (f : α → Node) {key : Nat} {b : Body α} {a : α}

theorem mem_children_map (h : a ∈ b.children) : f a ∈ (mk key (b.map f)).children := by
  rw [children, body, Body.children_map]
  exact List.mem_map_of_mem h

theorem mem_attached_map (h : a ∈ b.attached) : f a ∈ (mk key (b.map f)).attached := by
  rw [attached, body, Body.attached_map]
  exact List.mem_map_of_mem h

theorem mem_parts_map (h : a ∈ b.parts) : f a ∈ (mk key (b.map f)).parts :=
  List.mem_append.2 ((List.mem_append.1 h).imp (mem_children_map f) (mem_attached_map f))

end

/-- Two nodes at the same place of two documents, outside of what is left out. -/
inductive Counterparts (rename : Nat → Nat) (root root' : Node) : Node → Node → Prop where
  | root (h : Refilled rename root root') : Counterparts rename root root' root root'
  | part {key : Nat} {pairs : Body (Node × Node)}
      (above : Counterparts rename root root'
        ⟨key, pairs.map Prod.fst⟩ ⟨rename key, pairs.map Prod.snd⟩)
      (below : ∀ q ∈ pairs.parts, Refilled rename q.1 q.2) {q : Node × Node}
      (hq : q ∈ pairs.parts) : Counterparts rename root root' q.1 q.2

namespace Counterparts

variable {root root' n n' : Node}

theorem refilled (h : Counterparts rename root root' n n') : Refilled rename n n' := by
  cases h with
  | root h => exact h
  | part above below hq => exact below _ hq

theorem isInline_eq (h : Counterparts rename root root' n n') : n'.isInline = n.isInline :=
  congrArg Kind.isInline h.refilled.kind_eq

theorem mem_preorder (h : Counterparts rename root root' n n') :
    n ∈ root.preorder ∧ n' ∈ root'.preorder := by
  induction h with
  | root => exact ⟨self_mem_preorder _, self_mem_preorder _⟩
  | part _ _ hq ih =>
    exact ⟨mem_preorder_of_mem_parts ih.1 (mem_parts_map Prod.fst hq),
      mem_preorder_of_mem_parts ih.2 (mem_parts_map Prod.snd hq)⟩

end Counterparts

end Node

theorem forall₂_map_pairs {α β : Type} {R : α → β → Prop} {pairs : List (α × β)}
    (each : ∀ q ∈ pairs, R q.1 q.2) : List.Forall₂ R (pairs.map Prod.fst) (pairs.map Prod.snd) := by
  rw [List.forall₂_map_left_iff, List.forall₂_map_right_iff]
  exact List.forall₂_same.2 each

/-- What is collected from pairs of nodes corresponds if it does for each pair. -/
theorem forall₂_flatMap {α β γ δ : Type} {R : γ → δ → Prop} {f : α → List γ} {g : β → List δ}
    {xs : List α} {ys : List β}
    (each : List.Forall₂ (fun x y => List.Forall₂ R (f x) (g y)) xs ys) :
    List.Forall₂ R (xs.flatMap f) (ys.flatMap g) := by
  induction each with
  | nil => exact .nil
  | cons first _ ih =>
    rw [List.flatMap_cons, List.flatMap_cons]
    exact List.rel_append first ih

theorem lookup_rel_labelled {α : Type} {R : String → α → α → Prop} {xs ys : List (String × α)}
    (each : List.Forall₂ (fun x y => x.1 = y.1 ∧ R x.1 x.2 y.2) xs ys) (label : String) :
    Option.Rel (R label) (xs.lookup label) (ys.lookup label) := by
  induction each with
  | nil => exact .none
  | @cons x y xs ys first _ ih =>
    obtain ⟨same, related⟩ := first
    rw [List.lookup_cons, List.lookup_cons, ← same]
    split
    next here =>
      rw [eq_of_beq here]
      exact .some related
    next => exact ih

theorem lookup_rel {α : Type} {R : α → α → Prop} {xs ys : List (String × α)}
    (each : List.Forall₂ (fun x y => x.1 = y.1 ∧ R x.2 y.2) xs ys) (label : String) :
    Option.Rel R (xs.lookup label) (ys.lookup label) :=
  lookup_rel_labelled (R := fun _ => R) each label

theorem find?_rel {α β : Type} {R : α → β → Prop} {p : α → Bool} {q : β → Bool}
    (same : ∀ x y, R x y → q y = p x) {xs : List α} {ys : List β} (each : List.Forall₂ R xs ys) :
    Option.Rel R (xs.find? p) (ys.find? q) := by
  induction each with
  | nil => exact .none
  | cons first _ ih =>
    rw [List.find?_cons, List.find?_cons, same _ _ first]
    split
    · exact .some first
    · exact ih

theorem optionRel_map {α β γ δ : Type} {R : α → β → Prop} {S : γ → δ → Prop} {f : α → γ}
    {g : β → δ} (each : ∀ a b, R a b → S (f a) (g b)) {x : Option α} {y : Option β}
    (h : Option.Rel R x y) : Option.Rel S (x.map f) (y.map g) := by
  cases h with
  | none => exact .none
  | some related => exact .some (each _ _ related)

end Manuscript
