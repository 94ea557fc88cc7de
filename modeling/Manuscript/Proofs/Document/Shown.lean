import Manuscript.Proofs.Outcome
import Manuscript.Proofs.Text.Carried

/-!
# What is shown of a document

A renderer writes the children of a node at its place, and what is below some nodes it leaves out:

* `Node.shown`: the nodes that are left, in document order;
* `exists_text_of_shown`: where nothing is hidden, all of them are written;
* `fold_carries`: a fold carries the texts of all nodes shown, if every step carries those of its
  fragments behind its own.
-/

namespace Manuscript

open Text

namespace Node

/-- A node and the children below it in document order, without what is below a node that hides
it. -/
def shown (hides : Node → Bool) (n : Node) : List Node :=
  n :: if hides n then [] else n.children.attach.flatMap fun ⟨c, _⟩ => shown hides c
termination_by n
decreasing_by exact sizeOf_lt_of_mem_children ‹_›

theorem shown_eq (hides : Node → Bool) (n : Node) :
    n.shown hides = n :: if hides n then [] else n.children.flatMap (shown hides) := by
  rw [shown]
  congr 2
  exact List.flatMap_subtype (fun _ _ => rfl) |>.trans (by rw [List.unattach_attach])

/-- The texts that go with the nodes shown. -/
def shownTexts (hides : Node → Bool) (own : Node → List (List Char)) (n : Node) :
    List (List Char) :=
  (n.shown hides).flatMap own

theorem shownTexts_eq (hides : Node → Bool) (own : Node → List (List Char)) (n : Node) :
    n.shownTexts hides own =
      own n ++ if hides n then [] else n.children.flatMap (shownTexts hides own) := by
  rw [shownTexts, shown_eq, List.flatMap_cons]
  split
  · rfl
  · rw [List.flatMap_assoc]
    rfl

/-- The text that is picked from the node, if there is one. -/
def picked (pick : Node → Option String) (n : Node) : List (List Char) :=
  ((pick n).map String.toList).toList

theorem shownTexts_picked (hides : Node → Bool) (pick : Node → Option String) (n : Node) :
    n.shownTexts hides (picked pick) = ((n.shown hides).filterMap pick).map String.toList := by
  rw [shownTexts]
  induction n.shown hides with
  | nil => rfl
  | cons m rest ih =>
    rw [List.flatMap_cons, ih, picked]
    cases text : pick m with
    | none => rw [List.filterMap_cons_none text]; rfl
    | some s => rw [List.filterMap_cons_some text]; rfl

theorem mem_shownTexts_of_child {hides : Node → Bool} {own : Node → List (List Char)} {n c : Node}
    (shows : hides n = false) (hc : c ∈ n.children) {t : List Char}
    (ht : t ∈ c.shownTexts hides own) : t ∈ n.shownTexts hides own := by
  rw [shownTexts_eq, shows]
  exact List.mem_append_right _ (List.mem_flatMap.2 ⟨c, hc, ht⟩)

end Node

/-- A node that is written has all nodes written that nothing hides. -/
theorem exists_text_of_shown {ε : Type} {step : Node → List String → Outcome ε String} {n : Node}
    {text : String} (written : (n.fold step).result = .ok text) :
    ∀ m ∈ n.shown fun _ => false, ∃ text, (m.fold step).result = .ok text := by
  induction n using Node.induction generalizing text with
  | step n ih =>
    intro m hm
    rw [Node.shown_eq] at hm
    rcases List.mem_cons.1 hm with rfl | hm
    · exact ⟨text, written⟩
    · obtain ⟨c, hc, hm⟩ := List.mem_flatMap.1 hm
      rw [Node.fold_eq] at written
      obtain ⟨_, children, -⟩ := Outcome.bind_result_eq_ok_iff.1 written
      obtain ⟨_, here⟩ := Outcome.mapM_result_eq_ok children c hc
      exact ih c (Node.mem_parts_of_mem_children hc) here m hm

variable {ε : Type} {step : Node → List String → Outcome ε String} {hides : Node → Bool}
  {own : Node → List (List Char)} {whole : List Char → Prop}

/-- **What every step keeps, the whole fold keeps.** A step is only asked to keep texts that are
whole, and nothing of what it hides. -/
theorem fold_carries
    (keeps : ∀ n fragments text, (step n fragments).result = .ok text →
      (∀ t ∈ n.shownTexts hides own, whole t) →
      (hides n = false → Carrying (Node.shownTexts hides own) n.children fragments) →
      Carries (n.shownTexts hides own) text.toList)
    (n : Node) {text : String} (written : (n.fold step).result = .ok text)
    (all : ∀ t ∈ n.shownTexts hides own, whole t) :
    Carries (n.shownTexts hides own) text.toList := by
  induction n using Node.induction generalizing text with
  | step n ih =>
    rw [Node.fold_eq] at written
    obtain ⟨fragments, children, here⟩ := Outcome.bind_result_eq_ok_iff.1 written
    have each := Outcome.mapM_result_eq_ok_iff.1 children
    refine keeps n fragments text here all fun shows => ?_
    refine List.forall₂_iff_get.2 ⟨each.length_eq, fun i place place' => ?_⟩
    have hc : n.children.get ⟨i, place⟩ ∈ n.children := List.get_mem ..
    refine ih _ (Node.mem_parts_of_mem_children hc) (each.get place place') fun t ht => all t ?_
    exact Node.mem_shownTexts_of_child shows hc ht

end Manuscript
