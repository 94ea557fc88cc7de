import Manuscript.Proofs.Outcome

/-!
# The steps of a fold

A fold takes the step of a node once all nodes before it in the fold are written, and goes no
further when a step fails:

* `Node.Takes`: the steps that are taken, with the fragments that they are given;
* `mem_log_fold_iff`, `exists_taken_of_error`: what a fold reports and how it fails comes from a
  step that is taken.
-/

namespace Manuscript

open Outcome

variable {ε : Type} {step : Node → List String → Outcome ε String} {n : Node}

/-- Folding a node takes the step of the node `m`, at or below it, with these fragments. -/
inductive Node.Takes (step : Node → List String → Outcome ε String) (m : Node)
    (fragments : List String) : Node → Prop where
  | here (children : (m.children.mapM (Node.fold step)).result = .ok fragments) :
      Takes step m fragments m
  | child {n c : Node} {before after : List Node} (split : n.children = before ++ c :: after)
      (earlier : ∃ texts, (before.mapM (Node.fold step)).result = .ok texts)
      (h : Takes step m fragments c) : Takes step m fragments n

theorem Node.Takes.first {m c : Node} {fragments : List String} {after : List Node}
    (split : n.children = c :: after) (h : Takes step m fragments c) : Takes step m fragments n :=
  .child (split.trans (List.nil_append _).symm) ⟨[], rfl⟩ h

theorem mem_log_fold_iff {event : Event} :
    event ∈ (n.fold step).log ↔
      ∃ m fragments, Node.Takes step m fragments n ∧ event ∈ (step m fragments).log := by
  constructor
  · intro reported
    induction n using Node.induction with
    | step n ih =>
      rw [Node.fold_eq] at reported
      rcases mem_log_bind_iff.1 reported with below | ⟨fragments, children, here⟩
      · obtain ⟨before, c, after, split, earlier, reported⟩ := mem_log_mapM_iff.1 below
        have hc : c ∈ n.children := by simp [split]
        obtain ⟨m, fragments, taken, source⟩ := ih c (Node.mem_parts_of_mem_children hc) reported
        exact ⟨m, fragments, .child split earlier taken, source⟩
      · exact ⟨n, fragments, .here children, here⟩
  · rintro ⟨m, fragments, taken, source⟩
    induction taken with
    | here children =>
      rw [Node.fold_eq]
      exact mem_log_bind_iff.2 (.inr ⟨fragments, children, source⟩)
    | child split earlier _ ih =>
      rw [Node.fold_eq]
      exact mem_log_bind_iff.2 (.inl (mem_log_mapM_iff.2 ⟨_, _, _, split, earlier, ih⟩))

theorem exists_taken_of_error {e : ε} (h : (n.fold step).result = .error e) :
    ∃ m fragments, Node.Takes step m fragments n ∧ (step m fragments).result = .error e := by
  induction n using Node.induction with
  | step n ih =>
    rw [Node.fold_eq] at h
    rcases bind_result_eq_error_iff.1 h with below | ⟨fragments, children, here⟩
    · obtain ⟨before, c, after, split, earlier, fails⟩ := exists_first_error below
      have hc : c ∈ n.children := by simp [split]
      obtain ⟨m, fragments, taken, source⟩ := ih c (Node.mem_parts_of_mem_children hc) fails
      exact ⟨m, fragments, .child split earlier taken, source⟩
    · exact ⟨n, fragments, .here children, here⟩

end Manuscript
