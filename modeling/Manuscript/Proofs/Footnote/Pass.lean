import Mathlib.Data.Prod.Lex
import Manuscript.Proofs.Footnote.Numbering

/-!
# Making an index comes to an end

How the index of a document is made, one node at a time: first all definitions are gathered, then
the footnotes called in the text are numbered, then the definitions that no reference has reached.
The content of a footnote is gone through as soon as the footnote has its number, so that the lists
of nodes still to be gone through lie within one another.

* `Pass`, `Pass.Step`: how far the making has come, and the next step;
* `Pass.step_wellFounded`: no run of steps goes on for ever, whatever calls what;
* `Pass.Sound`: what a run keeps: where it leads, and which contents it has opened so far;
* `made_once`: the run ends with the index, and no content was opened twice on the way.
-/

namespace Manuscript.Footnote.Index

open Relation

/-- How far the making of an index has come. -/
inductive Pass where
  /-- The nodes in which definitions are still to be looked for, and the definitions found. -/
  | gathering (unsearched : List Node) (found : List Definition)
  /-- The lists of nodes that are being gone through, the innermost first, the definitions that are
  still to be settled after them, and all contents opened so far with their footnotes. -/
  | numbering (definitions : List Definition) (frames : List (List Node))
      (unsettled : List Definition) (index : Index) (opened : List (Key × List Node))

namespace Pass

/-- Before the first step. -/
def start (root : Node) : Pass := gathering [root] []

/-- The contents that were opened, each with its footnote. -/
def opened : Pass → List (Key × List Node)
  | gathering .. => []
  | numbering _ _ _ _ opened => opened

/-- What is done with the next node, or with the next definition when no node is left. -/
inductive Step (root : Node) : Pass → Pass → Prop where
  | search {n : Node} {rest found} :
      Step root (gathering (n :: rest) found)
        (gathering (n.parts ++ rest) (found ++ n.definition?.toList))
  | turn {found} :
      Step root (gathering [] found) (numbering found [root.children] found empty [])
  /-- A list has been gone through. -/
  | leave {definitions frames unsettled index opened} :
      Step root (numbering definitions ([] :: frames) unsettled index opened)
        (numbering definitions frames unsettled index opened)
  | passOver {n : Node} {definitions rest frames unsettled index opened}
      (kind : n.kind = .footnoteDefinition) :
      Step root (numbering definitions ((n :: rest) :: frames) unsettled index opened)
        (numbering definitions (rest :: frames) unsettled index opened)
  | enter {n : Node} {definitions rest frames unsettled index opened}
      (kind : n.kind ≠ .footnoteDefinition) (uncalled : n.call? definitions = none) :
      Step root (numbering definitions ((n :: rest) :: frames) unsettled index opened)
        (numbering definitions (n.parts :: rest :: frames) unsettled index opened)
  /-- A footnote that has a number is not looked into again. -/
  | skip {n : Node} {call : Call} {definitions rest frames unsettled index opened}
      (kind : n.kind ≠ .footnoteDefinition) (calls : n.call? definitions = some call)
      (old : call.key ∈ index.keys) :
      Step root (numbering definitions ((n :: rest) :: frames) unsettled index opened)
        (numbering definitions (rest :: frames) unsettled index opened)
  | miss {n : Node} {call : Call} {definitions rest frames unsettled index opened}
      (kind : n.kind ≠ .footnoteDefinition) (calls : n.call? definitions = some call)
      (new : call.key ∉ index.keys) (undefined : call.content = none) :
      Step root (numbering definitions ((n :: rest) :: frames) unsettled index opened)
        (numbering definitions (rest :: frames) unsettled (index.add call) opened)
  /-- A footnote gets its number before its content is gone through. -/
  | call {n : Node} {call : Call} {definitions rest nodes frames unsettled index opened}
      (kind : n.kind ≠ .footnoteDefinition) (calls : n.call? definitions = some call)
      (new : call.key ∉ index.keys) (defined : call.content = some nodes) :
      Step root (numbering definitions ((n :: rest) :: frames) unsettled index opened)
        (numbering definitions (nodes :: rest :: frames) unsettled (index.add call)
          (opened ++ [(call.key, nodes)]))
  | settled {definitions d unsettled index opened} (old : .label d.1 ∈ index.keys) :
      Step root (numbering definitions [] (d :: unsettled) index opened)
        (numbering definitions [] unsettled index opened)
  | settle {definitions d unsettled index opened} (new : .label d.1 ∉ index.keys) :
      Step root (numbering definitions [] (d :: unsettled) index opened)
        (numbering definitions [d.2] unsettled
          (add { index with log := index.log ++ [.unreferencedFootnote d.1] }
            ⟨.label d.1, some d.1, some d.2⟩)
          (opened ++ [(.label d.1, d.2)]))

/-- Room for the steps through lists of nodes: two for every place below, one to leave a list. -/
def effort : List (List Node) → Nat
  | [] => 0
  | nodes :: frames => 2 * weight nodes + 1 + effort frames

/-- What falls with every step: definitions are settled one by one, between two of them the
definitions without a number become fewer, and between two numbers the nodes do. -/
def rank : Pass → Nat × Nat × Nat × Nat
  | gathering unsearched _ => (weight unsearched + 1, 0, 0, 0)
  | numbering definitions frames unsettled index _ =>
    (0, unsettled.length, index.pending definitions, effort frames)

/-- The order of ranks, the first difference deciding. -/
def Below : Nat × Nat × Nat × Nat → Nat × Nat × Nat × Nat → Prop :=
  Prod.Lex (· < ·) (Prod.Lex (· < ·) (Prod.Lex (· < ·) (· < ·)))

theorem below_wellFounded : WellFounded Below :=
  (Prod.lex Nat.lt_wfRel (Prod.lex Nat.lt_wfRel (Prod.lex Nat.lt_wfRel Nat.lt_wfRel))).wf

theorem effort_cons (nodes : List Node) (frames : List (List Node)) :
    effort (nodes :: frames) = 2 * weight nodes + 1 + effort frames := rfl

theorem below_of_effort {a b c d : Nat} (h : c < d) : Below (0, a, b, c) (0, a, b, d) :=
  .right _ (.right _ (.right _ h))

/-- A footnote that is numbered leaves one definition less without a number, unless its content is
smaller than the reference. -/
theorem below_of_call {definitions : List Definition} {n : Node} {call : Call} {index : Index}
    {settled : Nat} {rest nodes : List Node} {frames : List (List Node)}
    (calls : n.call? definitions = some call) (new : call.key ∉ index.keys)
    (defined : call.content = some nodes) :
    Below (0, settled, (index.add call).pending definitions, effort (nodes :: rest :: frames))
      (0, settled, index.pending definitions, effort ((n :: rest) :: frames)) := by
  rcases Nat.lt_or_eq_of_le (pending_add_le definitions index call) with fewer | same
  · exact .right _ (.right _ (.left _ _ fewer))
  · rw [same]
    apply below_of_effort
    rw [effort_cons, effort_cons, effort_cons, weight_cons]
    rcases Node.content_of_call? calls with ⟨label, key, content⟩ | small
    · have found : definitions.lookup label = some nodes := content.symm.trans defined
      have fewer := pending_add_lt key found new
      omega
    · rw [defined, Option.getD_some] at small
      omega

theorem below_of_step {root : Node} {before after : Pass} (h : Step root before after) :
    Below after.rank before.rank := by
  cases h with
  | @search n rest =>
    have size := n.size_eq
    refine .left _ _ ?_
    rw [weight_append, weight_cons]
    omega
  | turn => exact .left _ _ (Nat.succ_pos _)
  | leave =>
    apply below_of_effort
    rw [effort_cons]
    omega
  | @passOver n | @skip n =>
    have size := n.size_pos
    apply below_of_effort
    rw [effort_cons, effort_cons, weight_cons]
    omega
  | @enter n =>
    have size := n.size_eq
    apply below_of_effort
    rw [effort_cons, effort_cons, effort_cons, weight_cons]
    omega
  | @miss n call definitions _ _ _ index =>
    rcases Nat.lt_or_eq_of_le (pending_add_le definitions index call) with fewer | same
    · exact .right _ (.right _ (.left _ _ fewer))
    · have size := n.size_pos
      simp only [rank]
      rw [same]
      apply below_of_effort
      rw [effort_cons, effort_cons, weight_cons]
      omega
  | call _ calls new defined => exact below_of_call calls new defined
  | settled | settle => exact .right _ (.left _ _ (Nat.lt_succ_self _))

/-- No run goes on for ever, whatever footnotes call themselves or each other. -/
theorem step_wellFounded (root : Node) :
    WellFounded fun after before => Step root before after :=
  Subrelation.wf below_of_step (InvImage.wf rank below_wellFounded)

theorem step_unique {root : Node} {before after other : Pass} (h : Step root before after)
    (h' : Step root before other) : after = other := by
  cases h <;> cases h' <;> simp_all

/-- A run stops only when every list has been gone through and every definition is settled. -/
theorem exists_step (root : Node) (pass : Pass) :
    (∃ after, Step root pass after) ∨
      ∃ definitions index opened, pass = numbering definitions [] [] index opened := by
  cases pass with
  | gathering unsearched found =>
    cases unsearched with
    | nil => exact .inl ⟨_, .turn⟩
    | cons n rest => exact .inl ⟨_, .search⟩
  | numbering definitions frames unsettled index opened =>
    cases frames with
    | nil =>
      cases unsettled with
      | nil => exact .inr ⟨definitions, index, opened, rfl⟩
      | cons d unsettled =>
        by_cases old : .label d.1 ∈ index.keys
        · exact .inl ⟨_, .settled old⟩
        · exact .inl ⟨_, .settle old⟩
    | cons nodes frames =>
      cases nodes with
      | nil => exact .inl ⟨_, .leave⟩
      | cons n rest =>
        by_cases kind : n.kind = .footnoteDefinition
        · exact .inl ⟨_, .passOver kind⟩
        cases calls : n.call? definitions with
        | none => exact .inl ⟨_, .enter kind calls⟩
        | some call =>
          by_cases old : call.key ∈ index.keys
          · exact .inl ⟨_, .skip kind calls old⟩
          cases content : call.content with
          | none => exact .inl ⟨_, .miss kind calls old content⟩
          | some nodes => exact .inl ⟨_, .call kind calls old content⟩

variable {root : Node} {frames : List (List Node)} {unsettled : List Definition} {index : Index}
  {opened : List (Key × List Node)}

/-- What is known while footnotes are numbered. -/
structure Underway (root : Node) (frames : List (List Node)) (unsettled : List Definition)
    (index : Index) (opened : List (Key × List Node)) : Prop where
  /-- What is still to be done makes the index of the document from the one made so far. -/
  leads : unsettled.foldl (Index.settle root.definitions)
    (follow root.definitions frames.flatten index) = ofRoot root
  within : ∀ n ∈ frames.flatten, n ∈ root.preorder
  settled : ∃ before, root.definitions = before ++ unsettled ∧
    ∀ e ∈ before, .label e.1 ∈ index.keys
  /-- The footnotes whose contents were opened have numbers. -/
  numbered : ∀ e ∈ opened, e.1 ∈ index.keys
  content : ∀ e ∈ opened, contentOf root e.1 = some e.2
  once : (opened.map Prod.fst).Nodup

theorem Underway.begin (root : Node) : Underway root [root.children] root.definitions empty [] where
  leads := by simp [ofRoot]
  within n hn := by
    have child : n ∈ root.children := by simpa using hn
    exact Node.mem_preorder_of_mem_parts root.self_mem_preorder
      (Node.mem_parts_of_mem_children child)
  settled := ⟨[], rfl, by simp⟩
  numbered := by simp
  content := by simp
  once := List.nodup_nil

/-- A step that numbers nothing changes only what is still to be gone through. -/
theorem Underway.move {frames' : List (List Node)}
    (h : Underway root frames unsettled index opened)
    (same : follow root.definitions frames.flatten index =
      follow root.definitions frames'.flatten index)
    (within : ∀ n ∈ frames'.flatten, n ∈ root.preorder) :
    Underway root frames' unsettled index opened :=
  { h with leads := same ▸ h.leads, within := within }

theorem Underway.within_rest {n : Node} {rest : List Node}
    (h : Underway root ((n :: rest) :: frames) unsettled index opened) :
    ∀ m ∈ (rest :: frames).flatten, m ∈ root.preorder :=
  fun m hm => h.within m (List.mem_cons_of_mem n hm)

theorem Underway.mem_preorder {n : Node} {rest : List Node}
    (h : Underway root ((n :: rest) :: frames) unsettled index opened) : n ∈ root.preorder :=
  h.within n List.mem_cons_self

/-- Definitions that are settled remain so while footnotes are numbered. -/
theorem Underway.settled_add (h : Underway root frames unsettled index opened) (call : Call) :
    ∃ before, root.definitions = before ++ unsettled ∧
      ∀ e ∈ before, .label e.1 ∈ (index.add call).keys := by
  obtain ⟨before, all, numbered⟩ := h.settled
  refine ⟨before, all, fun e he => ?_⟩
  rw [add_keys]
  exact List.mem_append_left _ (numbered e he)

/-- A label that nothing defines gets a number, and nothing is opened for it. -/
theorem Underway.miss {n : Node} {rest : List Node} {call : Call}
    (h : Underway root ((n :: rest) :: frames) unsettled index opened)
    (kind : n.kind ≠ .footnoteDefinition) (calls : n.call? root.definitions = some call)
    (new : call.key ∉ index.keys) (undefined : call.content = none) :
    Underway root (rest :: frames) unsettled (index.add call) opened where
  leads := by
    have here : follow root.definitions ((n :: rest) :: frames).flatten index =
        follow root.definitions (rest :: frames).flatten (index.add call) := by
      rw [List.flatten_cons, List.cons_append, follow_of_not_mem kind calls new, undefined]
      rfl
    exact here ▸ h.leads
  within := h.within_rest
  settled := h.settled_add call
  numbered e he := by
    rw [add_keys]
    exact List.mem_append_left _ (h.numbered e he)
  content := h.content
  once := h.once

/-- The content that is opened for a footnote was not opened before, because the footnote had no
number. -/
theorem Underway.opens (h : Underway root frames unsettled index opened) {key : Key}
    {nodes : List Node} (new : key ∉ index.keys) :
    ((opened ++ [(key, nodes)]).map Prod.fst).Nodup := by
  have unopened : key ∉ opened.map Prod.fst := by
    intro before
    obtain ⟨e, he, same⟩ := List.mem_map.1 before
    exact new (same ▸ h.numbered e he)
  simpa using List.Nodup.concat unopened h.once

theorem Underway.numbered_of_opens (h : Underway root frames unsettled index opened) {key : Key}
    {nodes : List Node} : ∀ e ∈ opened ++ [(key, nodes)], e.1 ∈ index.keys ++ [key] := by
  intro e he
  rcases List.mem_append.1 he with before | now
  · exact List.mem_append_left _ (h.numbered e before)
  · rw [List.mem_singleton.1 now]
    exact List.mem_append_right _ List.mem_cons_self

theorem Underway.content_of_opens (h : Underway root frames unsettled index opened) {key : Key}
    {nodes : List Node} (content : contentOf root key = some nodes) :
    ∀ e ∈ opened ++ [(key, nodes)], contentOf root e.1 = some e.2 := by
  intro e he
  rcases List.mem_append.1 he with before | now
  · exact h.content e before
  · rw [List.mem_singleton.1 now]
    exact content

theorem Underway.call {n : Node} {rest nodes : List Node} {call : Call} (coherent : root.Coherent)
    (h : Underway root ((n :: rest) :: frames) unsettled index opened)
    (kind : n.kind ≠ .footnoteDefinition) (calls : n.call? root.definitions = some call)
    (new : call.key ∉ index.keys) (defined : call.content = some nodes) :
    Underway root (nodes :: rest :: frames) unsettled (index.add call)
      (opened ++ [(call.key, nodes)]) := by
  have belongs := belongs_of_call? coherent h.mem_preorder calls
  have content : contentOf root call.key = some nodes := belongs.content_eq.symm.trans defined
  refine ⟨?leads, ?within, h.settled_add call, ?numbered, h.content_of_opens content, h.opens new⟩
  case leads =>
    have here : follow root.definitions ((n :: rest) :: frames).flatten index =
        follow root.definitions (nodes :: rest :: frames).flatten (index.add call) := by
      rw [List.flatten_cons, List.cons_append, follow_of_not_mem kind calls new, defined]
      rfl
    exact here ▸ h.leads
  case within =>
    intro m hm
    rw [List.flatten_cons] at hm
    rcases List.mem_append.1 hm with inside | later
    · exact mem_preorder_of_mem_contentOf content inside
    · exact h.within_rest m later
  case numbered =>
    rw [add_keys]
    exact h.numbered_of_opens

theorem Underway.settled_of_mem {d : Definition}
    (h : Underway root [] (d :: unsettled) index opened) (old : .label d.1 ∈ index.keys) :
    Underway root [] unsettled index opened := by
  refine { h with leads := ?leads, settled := ?settled }
  case leads =>
    have idle : Index.settle root.definitions index d = index := by
      rw [Index.settle, if_pos old]
    have leads := h.leads
    rw [List.foldl_cons, List.flatten_nil, follow_nil, idle] at leads
    rw [List.flatten_nil, follow_nil]
    exact leads
  case settled =>
    obtain ⟨before, all, numbered⟩ := h.settled
    refine ⟨before ++ [d], by simp [all], fun e he => ?_⟩
    rcases List.mem_append.1 he with earlier | now
    · exact numbered e earlier
    · rw [List.mem_singleton.1 now]
      exact old

theorem Underway.settle {d : Definition} (h : Underway root [] (d :: unsettled) index opened)
    (new : .label d.1 ∉ index.keys) :
    Underway root [d.2] unsettled
      (add { index with log := index.log ++ [.unreferencedFootnote d.1] }
        ⟨.label d.1, some d.1, some d.2⟩)
      (opened ++ [(.label d.1, d.2)]) := by
  obtain ⟨before, all, settled⟩ := h.settled
  -- All earlier definitions have numbers, so this one is the first of its label.
  have first : root.definitions.lookup d.1 = some d.2 := by
    rw [all]
    exact lookup_eq_of_unnumbered settled new
  have content : contentOf root (.label d.1) = some d.2 := first
  refine ⟨?leads, ?within, ⟨before ++ [d], by simp [all], ?settled⟩, ?numbered,
    h.content_of_opens content, h.opens new⟩
  case leads =>
    have leads := h.leads
    rw [List.foldl_cons, List.flatten_nil, follow_nil, Index.settle, if_neg new] at leads
    rw [List.flatten_cons, List.flatten_nil, List.append_nil]
    exact leads
  case within =>
    intro m hm
    exact mem_preorder_of_mem_contentOf content (by simpa using hm)
  case settled =>
    intro e he
    rw [add_keys]
    rcases List.mem_append.1 he with earlier | now
    · exact List.mem_append_left _ (settled e earlier)
    · rw [List.mem_singleton.1 now]
      exact List.mem_append_right _ List.mem_cons_self
  case numbered =>
    rw [add_keys]
    exact h.numbered_of_opens

/-- What is known of the making of an index at any time. -/
def Sound (root : Node) : Pass → Prop
  | gathering unsearched found =>
    root.definitions = found ++ (walk unsearched).filterMap Node.definition?
  | numbering definitions frames unsettled index opened =>
    definitions = root.definitions ∧ Underway root frames unsettled index opened

theorem Sound.step (coherent : root.Coherent) {before after : Pass} (h : Sound root before)
    (step : Step root before after) : Sound root after := by
  cases step with
  | @search n rest found =>
    have all : root.definitions = found ++ (walk (n :: rest)).filterMap Node.definition? := h
    show root.definitions = _
    rw [all, walk, List.append_assoc]
    cases defines : n.definition? <;> simp [defines]
  | @turn found =>
    have all : root.definitions = found := by
      have all : root.definitions = found ++ (walk []).filterMap Node.definition? := h
      simpa [walk] using all
    subst all
    exact ⟨rfl, .begin root⟩
  | leave =>
    obtain ⟨rfl, h⟩ := h
    exact ⟨rfl, h.move rfl h.within⟩
  | passOver kind =>
    obtain ⟨rfl, h⟩ := h
    exact ⟨rfl, h.move (follow_of_definition kind) h.within_rest⟩
  | @enter n _ rest frames _ _ _ kind uncalled =>
    obtain ⟨rfl, h⟩ := h
    refine ⟨rfl, h.move (follow_of_uncalled kind uncalled) fun m hm => ?_⟩
    rw [List.flatten_cons] at hm
    rcases List.mem_append.1 hm with below | later
    · exact Node.mem_preorder_of_mem_parts h.mem_preorder below
    · exact h.within_rest m later
  | skip kind calls old =>
    obtain ⟨rfl, h⟩ := h
    exact ⟨rfl, h.move (follow_of_mem kind calls old) h.within_rest⟩
  | miss kind calls new undefined =>
    obtain ⟨rfl, h⟩ := h
    exact ⟨rfl, h.miss kind calls new undefined⟩
  | call kind calls new defined =>
    obtain ⟨rfl, h⟩ := h
    exact ⟨rfl, h.call coherent kind calls new defined⟩
  | settled old =>
    obtain ⟨rfl, h⟩ := h
    exact ⟨rfl, h.settled_of_mem old⟩
  | settle new =>
    obtain ⟨rfl, h⟩ := h
    exact ⟨rfl, h.settle new⟩

theorem Sound.run (coherent : root.Coherent) {pass : Pass}
    (run : ReflTransGen (Step root) (start root) pass) : Sound root pass := by
  induction run with
  | refl => simp [Sound, start, Node.definitions, Node.places]
  | tail _ step ih => exact ih.step coherent step

/-- The last state of a run. -/
theorem Sound.result {definitions : List Definition}
    (h : Sound root (numbering definitions [] [] index opened)) :
    definitions = root.definitions ∧ index = ofRoot root := by
  obtain ⟨same, underway⟩ := h
  have leads := underway.leads
  rw [List.foldl_nil, List.flatten_nil, follow_nil] at leads
  exact ⟨same, leads⟩

/-- Every state leads on to one where nothing is left to do. -/
theorem exists_end (root : Node) (pass : Pass) : ∃ definitions index opened,
    ReflTransGen (Step root) pass (numbering definitions [] [] index opened) := by
  induction pass using (step_wellFounded root).induction with
  | _ pass ih =>
    rcases exists_step root pass with ⟨after, step⟩ | ⟨definitions, index, opened, rfl⟩
    · obtain ⟨definitions, index, opened, run⟩ := ih after step
      exact ⟨definitions, index, opened, .head step run⟩
    · exact ⟨definitions, index, opened, .refl⟩

end Pass

/-- How the making of an index goes. -/
structure MadeOnce (root : Node) : Prop where
  /-- No run of steps is without end. -/
  ends : WellFounded fun after before => Pass.Step root before after
  /-- The next step is determined, and there is one until the index of the document is made. -/
  next : ∀ pass, ReflTransGen (Pass.Step root) (.start root) pass →
    (∃! after, Pass.Step root pass after) ∨
      ∃ opened, pass = .numbering root.definitions [] [] (ofRoot root) opened
  made : ∃ opened, ReflTransGen (Pass.Step root) (.start root)
    (.numbering root.definitions [] [] (ofRoot root) opened)
  /-- At no time has the content of a footnote been opened twice. -/
  once : ∀ pass, ReflTransGen (Pass.Step root) (.start root) pass →
    (pass.opened.map Prod.fst).Nodup
  /-- What is opened for a footnote is its own content. -/
  content : ∀ pass, ReflTransGen (Pass.Step root) (.start root) pass →
    ∀ e ∈ pass.opened, contentOf root e.1 = some e.2

/-- **Making the index of a document comes to an end**, and goes through no content twice. -/
theorem made_once (root : Node) (coherent : root.Coherent) : MadeOnce root := by
  constructor
  case ends => exact Pass.step_wellFounded root
  case next =>
    intro pass run
    rcases Pass.exists_step root pass with ⟨after, step⟩ | ⟨_, _, opened, rfl⟩
    · exact .inl ⟨after, step, fun other step' => Pass.step_unique step' step⟩
    · obtain ⟨rfl, rfl⟩ := (Pass.Sound.run coherent run).result
      exact .inr ⟨opened, rfl⟩
  case made =>
    obtain ⟨definitions, index, opened, run⟩ := Pass.exists_end root (.start root)
    obtain ⟨rfl, rfl⟩ := (Pass.Sound.run coherent run).result
    exact ⟨opened, run⟩
  case once =>
    intro pass run
    cases pass with
    | gathering => exact List.nodup_nil
    | numbering => exact (Pass.Sound.run coherent run).2.once
  case content =>
    intro pass run e he
    cases pass with
    | gathering => cases he
    | numbering => exact (Pass.Sound.run coherent run).2.content e he

theorem entwined_made_once : entwined.Coherent ∧ MadeOnce entwined :=
  ⟨entwined_coherent, made_once entwined entwined_coherent⟩

end Manuscript.Footnote.Index
