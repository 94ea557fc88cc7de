import Manuscript.Markdown.Convert
import Manuscript.Proofs.Outcome

/-!
# Where generic Markdown fails

A node can be written from any fragments, except for three kinds of nodes:

* `Fault`: a failure with the node that it is about;
* `fault_of_convert`: there are no other failures;
* `render_result`: a document fails as its nodes do.
-/

namespace Manuscript.Markdown

/-- The failures of writing a node. -/
inductive Fault (context : Context) (n : Node) : RenderError → Prop where
  /-- The options ask for a fence that is too long. -/
  | fence (kind : n.kind = .codeBlock ∨ n.kind = .literalBlock) (e : Text.TooLong) :
      Fault context n (.fenceTooLong e)
  /-- There are fragments for a table without rows. -/
  | rows (kind : n.kind = .table) : Fault context n .noRows
  /-- The first row of a table is none. -/
  | cells (kind : n.kind = .table) (first : Kind) :
      Fault context n (.noAttribute first.name "cells")
  | alignments (kind : n.kind = .table) : Fault context n .noAlignments
  | alignment (kind : n.kind = .table) (word : String) : Fault context n (.unknownAlignment word)
  /-- A reference has nothing to be printed by. -/
  | reference (key : Footnote.Key) (calls : n.footnoteKey? = some key) {e : RenderError}
      (nameless : context.labelFor key = .error e) : Fault context n e

theorem fenceTooLong_of_fenced? {o : MarkdownOptions} {content info : String} {e : RenderError}
    (h : fenced? o content info = .error e) : ∃ long, e = .fenceTooLong long := by
  unfold fenced? at h
  cases length : Text.checkLength (fenceLength o content) with
  | ok u =>
    rw [length] at h
    cases h
  | error long =>
    rw [length] at h
    cases h
    exact ⟨long, rfl⟩

theorem unknownAlignment_of_dashes {columns : List (Option Alignment)} {e : RenderError}
    (h : columns.mapM dashes = .error e) : ∃ word, e = .unknownAlignment word := by
  induction columns with
  | nil => cases h
  | cons column columns ih =>
    rw [List.mapM_cons] at h
    cases first : dashes column with
    | error e' =>
      rw [first] at h
      cases h
      unfold dashes at first
      split at first <;> cases first
      exact ⟨_, rfl⟩
    | ok dash =>
      cases rest : columns.mapM dashes with
      | error e' =>
        rw [first, rest] at h
        cases h
        exact ih rest
      | ok separators =>
        rw [first, rest] at h
        cases h

theorem fault_of_grid {context : Context} {n : Node} (kind : n.kind = .table) {rows : List Node}
    {alignments : Option (List (Option Alignment))} {fragments : List String} {e : RenderError}
    (h : grid rows alignments fragments = .error e) : Fault context n e := by
  unfold grid at h
  split at h
  next => cases h
  next =>
    split at h
    next header _ =>
      cases count : cellCount header with
      | error e' =>
        rw [count] at h
        cases h
        unfold cellCount at count
        split at count <;> cases count
        exact .cells kind _
      | ok count' =>
        rw [count] at h
        cases alignments with
        | none =>
          cases h
          exact .alignments kind
        | some alignments =>
          cases separators : (columns (max count' 1) alignments).mapM dashes with
          | error e' =>
            simp only [bind, Except.bind, separators] at h
            cases h
            obtain ⟨word, rfl⟩ := unknownAlignment_of_dashes separators
            exact .alignment kind word
          | ok lines =>
            simp only [bind, Except.bind, separators] at h
            cases h
    next =>
      cases h
      exact .rows kind

/-- A node that cannot be written is one of those that have a fault. -/
theorem fault_of_convert {o : MarkdownOptions} {context : Context} {n : Node}
    {fragments : List String} {e : RenderError}
    (h : (convert o context n fragments).result = .error e) : Fault context n e := by
  unfold convert at h
  split at h
  case h_4 language code hb =>
    obtain ⟨long, rfl⟩ := fenceTooLong_of_fenced? h
    exact .fence (.inl (by simp [Node.kind, hb, Body.kind])) long
  case h_5 literalKind literal hb =>
    obtain ⟨long, rfl⟩ := fenceTooLong_of_fenced? h
    exact .fence (.inr (by simp [Node.kind, hb, Body.kind])) long
  case h_9 header rows alignments hb =>
    exact fault_of_grid (by simp [Node.kind, hb, Body.kind]) h
  case h_13 format markup hb => split at h <;> cases h
  case h_23 label definition hb =>
    cases nameless : context.labelFor (Footnote.keyOf label n.key) with
    | ok text =>
      rw [nameless] at h
      cases h
    | error e' =>
      rw [nameless] at h
      cases h
      exact .reference _ (by simp [Node.footnoteKey?, hb]) nameless
  all_goals cases h

/-- Only a reference without a label can be nameless. -/
theorem labelFor_eq_error {context : Context} {key : Footnote.Key} {e : RenderError}
    (h : context.labelFor key = .error e) :
    ∃ reference, key = .anonymous reference ∧ e = .unnumbered key := by
  cases key with
  | label label => cases h
  | anonymous reference =>
    refine ⟨reference, rfl, ?_⟩
    rw [Context.labelFor, Context.numberFor] at h
    split at h <;> cases h
    rfl

theorem render_result (o : MarkdownOptions) (root : Node) :
    (render o root).result = (transcode o (Context.of root) root).result.map (tidy o) := by
  rw [render, Context.build_eq, Outcome.bind_ok]
  exact Outcome.bind_pure_result _ _

end Manuscript.Markdown
