import Mathlib.Data.List.TakeWhile
import Manuscript.Leanpub.Render
import Manuscript.Proofs.Outcome

/-!
# Books that must be complete

Options can forbid to leave anything out. A run with such options goes on like one without them
until something would be left out for the first time, and fails there:

* `Stopped`: one run is another one, stopped at the first report of something left out;
* `Stopped.bind`, `Stopped.mapM`, `Stopped.fold`: a run of several steps is stopped if the steps
  are;
* `stopped_transcodeWithin`, `stopped_render`: the writing of nodes and of books is stopped;
* `strict_stops_at_first_drop`: what that says of the failure and of what is reported.
-/

namespace Manuscript

/-- The event reports that something was left out of the book. -/
def Event.isDrop : Event → Bool
  | dropped .. => true
  | _ => false

/-- Nothing was left out of the book. -/
def Undropped (log : List Event) : Prop := ∀ event ∈ log, event.isDrop = false

theorem undropped_nil : Undropped [] := by simp [Undropped]

theorem undropped_append {log more : List Event} :
    Undropped (log ++ more) ↔ Undropped log ∧ Undropped more := by
  simp only [Undropped, List.mem_append, or_imp, forall_and]

theorem undropped_singleton {event : Event} : Undropped [event] ↔ event.isDrop = false := by
  simp [Undropped]

namespace Footnote.Index

theorem undropped_add {index : Index} (h : Undropped index.log) (call : Call) :
    Undropped (index.add call).log := by
  unfold add
  split
  · exact h
  · exact undropped_append.2 ⟨h, undropped_singleton.2 rfl⟩

theorem undropped_follow (definitions : List Definition) (nodes : List Node) (index : Index)
    (h : Undropped index.log) : Undropped (follow definitions nodes index).log := by
  fun_induction follow definitions nodes index with
  | case1 index => exact h
  | case2 index n rest definition ih => exact ih h
  | case3 index n rest text uncalled ih => exact ih h
  | case4 index n rest text call called numbered ih => exact ih h
  | case5 index n rest text call called new ih => exact ih (undropped_add h call)

theorem undropped_settle (definitions : List Definition) (index : Index) (d : Definition)
    (h : Undropped index.log) : Undropped (settle definitions index d).log := by
  unfold settle
  split
  · exact h
  · have reported : Undropped (index.log ++ [.unreferencedFootnote d.1]) :=
      undropped_append.2 ⟨h, undropped_singleton.2 rfl⟩
    exact undropped_follow definitions _ _ (undropped_add reported _)

theorem undropped_ofRoot (root : Node) : Undropped (ofRoot root).log :=
  List.foldlRecOn (motive := fun index : Index => Undropped index.log) root.definitions _
    (undropped_follow root.definitions root.children empty undropped_nil)
    fun index h d _ => undropped_settle root.definitions index d h

end Footnote.Index

namespace Parents

theorem undropped_adopt (p c : Node) {parents : Parents} (h : Undropped parents.log) :
    Undropped (adopt p parents c).log := by
  unfold adopt
  split
  · exact h
  · split
    · exact h
    · exact undropped_append.2 ⟨h, undropped_singleton.2 rfl⟩

theorem undropped_ofRoot (root : Node) : Undropped (ofRoot root).log :=
  List.foldlRecOn (motive := fun made : Parents => Undropped made.log) root.places _ undropped_nil
    fun _ h p _ => List.foldlRecOn (motive := fun made : Parents => Undropped made.log) p.parts _ h
      fun _ h c _ => undropped_adopt p c h

end Parents

namespace Leanpub

variable {α β : Type}

/-- `Stopped strict permissive`: the first run goes like the second one until something is left out
for the first time, and fails there. -/
inductive Stopped : Outcome RenderError α → Outcome RenderError α → Prop where
  | dropped {before after : List Event} {kind : Kind} {reason : DropReason}
      {result : Except RenderError α} (complete : Undropped before) :
      Stopped ⟨before, .error (.dropped kind reason)⟩
        ⟨before ++ .dropped kind reason :: after, result⟩
  | same {run : Outcome RenderError α} (complete : Undropped run.log) : Stopped run run

namespace Stopped

theorem ofExcept (a : Except RenderError α) : Stopped (.ofExcept a) (.ofExcept a) :=
  same undropped_nil

theorem pure (a : α) : Stopped (Pure.pure a) (Pure.pure a) := ofExcept (.ok a)

theorem fail (e : RenderError) : Stopped (.fail e : Outcome RenderError α) (.fail e) :=
  same undropped_nil

/-- What is reported before makes no difference, if nothing is left out in it. -/
theorem after {log : List Event} (complete : Undropped log) {x y : Outcome RenderError α}
    (h : Stopped x y) : Stopped ⟨log ++ x.log, x.result⟩ ⟨log ++ y.log, y.result⟩ := by
  cases h with
  | dropped later =>
    rw [← List.append_assoc]
    exact dropped (undropped_append.2 ⟨complete, later⟩)
  | same later => exact same (undropped_append.2 ⟨complete, later⟩)

theorem bind {x y : Outcome RenderError α} {f g : α → Outcome RenderError β} (first : Stopped x y)
    (next : ∀ a, Stopped (f a) (g a)) : Stopped (x >>= f) (y >>= g) := by
  cases first with
  | @dropped before after kind reason result complete =>
    -- The strict run has stopped already, whatever the other one goes on to do.
    cases result with
    | error e => exact dropped complete
    | ok a =>
      rw [Outcome.bind_error, Outcome.bind_ok, List.append_assoc, List.cons_append]
      exact dropped complete
  | same complete =>
    obtain ⟨log, _ | a⟩ := x
    · exact same complete
    · exact after complete (next a)

theorem mapM {f g : α → Outcome RenderError β} {xs : List α}
    (each : ∀ x ∈ xs, Stopped (f x) (g x)) : Stopped (xs.mapM f) (xs.mapM g) := by
  induction xs with
  | nil => exact pure []
  | cons x xs ih =>
    rw [List.mapM_cons, List.mapM_cons]
    refine bind (each x List.mem_cons_self) fun y => ?_
    exact bind (ih fun z hz => each z (List.mem_cons_of_mem x hz)) fun ys => pure (y :: ys)

theorem renderNodes {render render' : Node → Outcome RenderError String} {nodes : List Node}
    (each : ∀ n, Stopped (render n) (render' n)) :
    Stopped (renderNodes render nodes) (renderNodes render' nodes) :=
  bind (mapM fun n _ => each n) fun _ => pure _

theorem fold {step step' : Node → List String → Outcome RenderError String}
    (each : ∀ n fragments, Stopped (step n fragments) (step' n fragments)) (n : Node) :
    Stopped (n.fold step) (n.fold step') := by
  induction n using Node.induction with
  | step n ih =>
    rw [Node.fold_eq, Node.fold_eq]
    refine bind (mapM fun c hc => ?_) (each n)
    exact ih c (Node.mem_parts_of_mem_children hc)

end Stopped

/-- Generic Markdown leaves nothing out of a book. -/
theorem undropped_convert (o : MarkdownOptions) (context : Context) (n : Node)
    (fragments : List String) : Undropped (Markdown.convert o context n fragments).log := by
  unfold Markdown.convert
  split
  case h_13 format _ _ =>
    split
    · exact undropped_nil
    · exact undropped_singleton.2 rfl
  all_goals exact undropped_nil

/-- What is forbidden to leave out has no part in generic Markdown. -/
theorem convert_failOnDropped (o : MarkdownOptions) (forbidden : Bool) (context : Context)
    (n : Node) (fragments : List String) :
    Markdown.convert { o with failOnDropped := forbidden } context n fragments =
      Markdown.convert o context n fragments := by
  obtain ⟨key, body⟩ := n
  cases body <;> rfl

namespace Export

/-- The same export with options that forbid to leave anything out, or do not. -/
def forbidding (x : Export) (forbidden : Bool) : Export :=
  { x with options := { x.options with failOnDropped := forbidden } }

variable (x : Export) {renderCaption renderCaption' : List Node → Outcome RenderError String}

theorem stopped_drop (n : Node) (reason : DropReason) :
    Stopped ((x.forbidding true).drop n reason) ((x.forbidding false).drop n reason) :=
  @Stopped.dropped String [] [] n.kind reason (.ok "") undropped_nil

theorem stopped_generic (n : Node) (fragments : List String) :
    Stopped ((x.forbidding true).generic n fragments)
      ((x.forbidding false).generic n fragments) := by
  have same : (x.forbidding true).generic n fragments = (x.forbidding false).generic n fragments :=
    calc (x.forbidding true).generic n fragments
        = x.generic n fragments := convert_failOnDropped x.options.toMarkdownOptions ..
      _ = (x.forbidding false).generic n fragments :=
          (convert_failOnDropped x.options.toMarkdownOptions ..).symm
  rw [same]
  exact .same (undropped_convert _ _ n fragments)

theorem stopped_link (captions : ∀ nodes, Stopped (renderCaption nodes) (renderCaption' nodes))
    (n : Node) (target : Target) (description : String) :
    Stopped ((x.forbidding true).link renderCaption n target description)
      ((x.forbidding false).link renderCaption' n target description) := by
  have use : ∀ forbidden,
      linkUse (x.forbidding forbidden).options target = linkUse x.options target := fun _ => rfl
  unfold link
  rw [use, use]
  cases linkUse x.options target with
  | crossReference => exact .pure _
  | image => exact .bind (captions (x.captionAround n)) fun _ => .pure _
  | external => exact .pure _
  | description => exact .pure _
  | nothing => exact x.stopped_drop n _

theorem stopped_apply (captions : ∀ nodes, Stopped (renderCaption nodes) (renderCaption' nodes))
    (rule : Rule) (n : Node) (fragments : List String) :
    Stopped ((x.forbidding true).apply renderCaption rule n fragments)
      ((x.forbidding false).apply renderCaption' rule n fragments) := by
  cases rule with
  | heading =>
    exact .bind (x.stopped_generic n fragments) fun _ => .bind (.ofExcept _) fun _ => .pure _
  | suppress => exact x.stopped_drop n _
  | link => exact .bind (.ofExcept _) fun target => x.stopped_link captions n target _
  | generic => exact x.stopped_generic n fragments
  | omitDefinition | own => exact .pure _
  | codeBlock | literalBlock | footnoteReference | mathInline | plainText => exact .ofExcept _

theorem stopped_convert (captions : ∀ nodes, Stopped (renderCaption nodes) (renderCaption' nodes))
    (n : Node) (fragments : List String) :
    Stopped ((x.forbidding true).convert renderCaption n fragments)
      ((x.forbidding false).convert renderCaption' n fragments) := by
  have looked : Undropped (x.ruleFor n).log := by
    unfold ruleFor
    split
    · exact undropped_nil
    · exact undropped_singleton.2 rfl
  exact .bind (.same looked) fun rule => x.stopped_apply captions rule n fragments

/-- The writing of a node stops at the first thing left out below it, or in a caption it shows. -/
theorem stopped_transcodeWithin (depth : Nat) (n : Node) :
    Stopped ((x.forbidding true).transcodeWithin depth n)
      ((x.forbidding false).transcodeWithin depth n) := by
  -- The fold goes through the children; captions are written with one depth less.
  induction depth generalizing n with
  | zero =>
    refine .fold (fun n fragments => x.stopped_convert (fun caption => ?_) n fragments) n
    split
    · exact .pure _
    · exact .fail _
  | succ depth ih =>
    exact .fold (fun n fragments => x.stopped_convert (fun _ => .renderNodes ih) n fragments) n

theorem stopped_appendSection {write write' : Node → Outcome RenderError String}
    (each : ∀ n, Stopped (write n) (write' n)) (index : Footnote.Index) (body : String) :
    Stopped (index.appendSection write body) (index.appendSection write' body) := by
  unfold Footnote.Index.appendSection Footnote.Index.renderDefinitions
  split
  · exact .pure body
  · refine .bind (.bind (.mapM fun entry _ => ?_) fun _ => .pure _) fun _ => .pure _
    exact .bind (.renderNodes each) fun _ => .pure _

theorem stopped_render (document : Node) :
    Stopped ((x.forbidding true).render document) ((x.forbidding false).render document) :=
  .bind (x.stopped_transcodeWithin _ document) fun body =>
    stopped_appendSection (x.stopped_transcodeWithin _) x.context.footnotes body

end Export

theorem render_eq (options : LeanpubOptions) (rules : RuleTable) (environment : Environment)
    (document : Node) : render options rules environment document =
      Context.build document >>= fun context =>
        Export.render ⟨options, rules, environment, context⟩ document := by
  simp [render, Export.ofDocument, Context.build_eq, Outcome.bind_ok, Outcome.pure_def]

/-- What a run becomes that fails where another one leaves something out. -/
structure StopsAtFirstDrop (strict permissive : Outcome RenderError String) : Prop where
  /-- It fails with the first thing that the other one reports to have left out. -/
  first : ∀ kind reason, permissive.log.find? Event.isDrop = some (.dropped kind reason) →
    strict.result = .error (.dropped kind reason)
  /-- Up to there it reports the same. -/
  reported : strict.log = permissive.log.takeWhile fun event => !event.isDrop
  /-- It ends in the same way if the other one left nothing out. -/
  otherwise : permissive.log.find? Event.isDrop = none → strict.result = permissive.result

theorem Stopped.stopsAtFirstDrop {strict permissive : Outcome RenderError String}
    (h : Stopped strict permissive) : StopsAtFirstDrop strict permissive := by
  cases h with
  | @dropped before after kind reason result complete =>
    have passed : before.find? Event.isDrop = none := by simpa [Undropped] using complete
    have found : (before ++ .dropped kind reason :: after).find? Event.isDrop =
        some (.dropped kind reason) := by
      rw [List.find?_append, passed, List.find?_cons_of_pos rfl]
      rfl
    refine ⟨fun kind' reason' h => ?_, ?_, fun h => ?_⟩
    · rw [found] at h
      cases h
      rfl
    · rw [List.takeWhile_append_of_pos (by simpa [Undropped] using complete)]
      simp [Event.isDrop]
    · rw [found] at h
      cases h
  | same complete =>
    have passed : strict.log.find? Event.isDrop = none := by simpa [Undropped] using complete
    refine ⟨fun kind reason h => ?_, ?_, fun _ => rfl⟩
    · rw [passed] at h
      cases h
    · rw [List.takeWhile_eq_self_iff.2 (by simpa [Undropped] using complete)]

/-- **A strict run is a permissive one that is stopped at the first thing that it leaves out.** -/
theorem strict_stops_at_first_drop (options : LeanpubOptions) (rules : RuleTable)
    (environment : Environment) (root : Node) :
    StopsAtFirstDrop (render { options with failOnDropped := true } rules environment root)
      (render { options with failOnDropped := false } rules environment root) := by
  have looked : Undropped (Context.build root : Outcome RenderError Context).log := by
    rw [Context.build_eq]
    exact undropped_append.2 ⟨Footnote.Index.undropped_ofRoot root, Parents.undropped_ofRoot root⟩
  have stopped : Stopped (render { options with failOnDropped := true } rules environment root)
      (render { options with failOnDropped := false } rules environment root) := by
    rw [render_eq, render_eq]
    refine .bind (.same looked) fun context => ?_
    exact Export.stopped_render ⟨options, rules, environment, context⟩ root
  exact stopped.stopsAtFirstDrop

end Leanpub

end Manuscript
