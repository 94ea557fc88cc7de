import Manuscript.Proofs.Leanpub.Termination

/-!
# The nodes that rules meet

Rendering reaches nodes in three ways: as children, in the captions that images show, and in the
contents of the footnote section. What a rule looks up about a node comes from a map of parents that
was read off in a fourth way. All nodes that are reached are in it, also where nodes are shared:

* `renderBy`: the run of an export with something else done to its nodes than the rules say;
* `renderBy_eq`: what is done to nodes that are not `Written` makes no difference to it;
* `visitAll`, `transcodeWithin_eq_visitWithin`: a run that makes anything of nodes, be it texts or
  not, and rendering as one of them;
* `visitAll_congr`: what is done to nodes outside the document makes no difference to such a run;
* `Parents.Knows`: all that is looked up from a node upwards is found;
* `rules_meet_known_nodes`: it is so for every node that is written.
-/

namespace Manuscript

/-- What is looked up from a node upwards is found, from parent to parent, until the root. -/
structure Parents.Knows (parents : Parents) (root n : Node) : Prop where
  entered : n = root ∨ ∃ p, parents.of? n = some p
  leadsUp : parents.LeadsUp root n
  /-- The ancestors that are looked through for lists and blocks are the nodes on that way. -/
  chain : List.IsChain (fun c p => parents.of? c = some p ∧ c ∈ p.parts) (n :: parents.ancestors n)
  last : (n :: parents.ancestors n).getLast? = some root
  /-- None of them is a node that the map does not know. -/
  seen : ∀ a ∈ n :: parents.ancestors n, a = root ∨ ∃ p, parents.of? a = some p
  /-- The way ends at the root and not because steps are counted. -/
  ends : ∀ steps ≥ parents.entries.length, parents.climb steps n = parents.ancestors n

theorem Parents.knows_of_mem {root : Node} (coherent : root.Coherent) {n : Node}
    (hn : n ∈ root.preorder) : (ofRoot root).Knows root n := by
  have known : ∀ a ∈ root.preorder, a = root ∨ ∃ p, (ofRoot root).of? a = some p := by
    intro a ha
    cases h : (ofRoot root).of? a with
    | none => exact .inl (eq_root_of_of?_eq_none ha h)
    | some p => exact .inr ⟨p, rfl⟩
  have up := leadsUp_of_mem coherent hn
  obtain ⟨chain, last⟩ := up.ancestors coherent hn
  refine ⟨known n hn, up, chain, last, fun a ha => ?_, fun steps enough => ?_⟩
  · rcases List.mem_cons.1 ha with rfl | ha
    · exact known a hn
    · exact known a (climb_larger coherent hn _ a ha).1
  · have room := (ofRoot root).room_le n
    exact climb_eq coherent hn (Nat.le_trans room enough) room

namespace Leanpub.Export

variable {root : Node} {x : Export}

/-- What is done to a node once its children are written, by what captions are rendered with. -/
abbrev Handler :=
  (List Node → Outcome RenderError String) → Node → List String → Outcome RenderError String

/-- Writes a node and everything below it with a handler in place of the rules, showing captions
within captions to a given depth. -/
def writeWithin (handle : Handler) : Nat → Node → Outcome RenderError String
  | 0 => Node.fold (handle fun caption =>
      if caption.isEmpty then pure "" else .fail .captionCycle)
  | depth + 1 => Node.fold (handle (renderNodes (writeWithin handle depth)))

/-- The body of a document and its footnote section, written with a handler. -/
def renderBy (x : Export) (handle : Handler) (document : Node) : Outcome RenderError String := do
  let body ← writeWithin handle x.captionDepth document
  x.context.footnotes.appendSection (writeWithin handle x.captionDepth) body

theorem writeWithin_convert (x : Export) : writeWithin x.convert = x.transcodeWithin := by
  funext depth
  induction depth with
  | zero => rfl
  | succ depth ih => rw [writeWithin, transcodeWithin, ih]

/-- Rendering is what comes of doing what the rules say. -/
theorem renderBy_convert (x : Export) (document : Node) :
    x.renderBy x.convert document = x.render document := by
  rw [renderBy, render, writeWithin_convert]
  rfl

/-- The handler does to every node that is written what its rule says. -/
def Follows (x : Export) (handle : Handler) : Prop :=
  ∀ n, x.Written n → ∀ renderCaption, handle renderCaption n = x.convert renderCaption n

/-- Folding a node with such a handler and with the rules gives the same, if the captions that are
shown are rendered alike. -/
theorem fold_eq_of_follows {handle : Handler} (follows : x.Follows handle)
    {render render' : List Node → Outcome RenderError String}
    (same : ∀ m, x.Written m → x.convert render m = x.convert render' m) {n : Node}
    (written : x.Written n) : Node.fold (handle render) n = Node.fold (x.convert render') n := by
  induction n using Node.induction with
  | step n ih =>
    have below : n.children.mapM (Node.fold (handle render)) =
        n.children.mapM (Node.fold (x.convert render')) :=
      Outcome.mapM_congr fun c hc =>
        ih c (Node.mem_parts_of_mem_children hc) (written.call (.child hc))
    rw [Node.fold_eq, Node.fold_eq, below, follows n written, same n written]

theorem writeWithin_eq {handle : Handler} (follows : x.Follows handle) (depth : Nat) {n : Node}
    (written : x.Written n) : writeWithin handle depth n = x.transcodeWithin depth n := by
  induction depth generalizing n with
  | zero => exact fold_eq_of_follows follows (fun _ _ => rfl) written
  | succ depth ih =>
    refine fold_eq_of_follows follows (fun m hm => funext (convert_congr fun shows => ?_)) written
    exact renderNodes_congr fun c hc => ih (hm.call (.caption shows hc))

/-- What is done to a node that is not written makes no difference: no rule is called on it. -/
theorem renderBy_eq (looked : x.context = Context.of root) {handle : Handler}
    (follows : x.Follows handle) : x.renderBy handle root = x.render root := by
  have whole : x.Written root := by simpa [looked, Context.of] using Written.document (x := x)
  have sections : ∀ body,
      x.context.footnotes.appendSection (writeWithin handle x.captionDepth) body =
        x.context.footnotes.appendSection x.transcode body :=
    appendSection_congr fun entry he n hn => writeWithin_eq follows _ (.definition he hn)
  rw [renderBy, render, writeWithin_eq follows _ whole]
  exact bind_congr sections

/-! ## Runs that make other things than texts -/

section
variable {ε α : Type}

/-- What is done to a node, by what was made of its children and what can be made of the caption
around it. -/
abbrev Visit (ε α : Type) := Node → List α → Outcome ε (List α) → Outcome ε α

/-- Visits everything below a node, then the node. A visit that asks for the caption around the node
has that visited first, captions within captions to a given depth. -/
def visitWithin (x : Export) (visit : Visit ε α) (stop : Outcome ε (List α)) :
    Nat → Node → Outcome ε α
  | 0 => Node.fold fun n below =>
      visit n below (if (x.captionAround n).isEmpty then pure [] else stop)
  | depth + 1 => Node.fold fun n below =>
      visit n below ((x.captionAround n).mapM (x.visitWithin visit stop depth))

/-- Visits a document, then the contents of its footnote section. -/
def visitAll (x : Export) (visit : Visit ε α) (stop : Outcome ε (List α)) (depth : Nat)
    (document : Node) : Outcome ε (α × List (List α)) := do
  let body ← x.visitWithin visit stop depth document
  let notes ← x.context.footnotes.entries.mapM fun entry =>
    entry.content.mapM (x.visitWithin visit stop depth)
  return (body, notes)

/-- The siblings of a caption, rendered and put together. -/
def joined (nodes : List Node) (fragments : Outcome RenderError (List String)) :
    Outcome RenderError String := do
  let fragments ← fragments
  return if nodes.all Node.isInline then String.join fragments else Text.joinBlocks fragments

/-- What the rules do to a node: they make a text of it. -/
def byRules (x : Export) : Visit RenderError String := fun n below caption =>
  x.convert (fun nodes => joined nodes caption) n below

theorem transcodeWithin_eq_visitWithin (x : Export) (depth : Nat) :
    x.transcodeWithin depth = x.visitWithin x.byRules (.fail .captionCycle) depth := by
  induction depth with
  | zero =>
    refine congrArg Node.fold (funext fun n => funext fun below =>
      convert_congr (fun _ => ?_) below)
    cases x.captionAround n <;> rfl
  | succ depth ih =>
    rw [visitWithin, ← ih]
    exact congrArg Node.fold (funext fun n => funext fun below =>
      convert_congr (fun _ => rfl) below)

theorem visitWithin_congr (coherent : root.Coherent) (looked : x.context = Context.of root)
    {visit visit' : Visit ε α} (same : ∀ n ∈ root.preorder, visit n = visit' n)
    (stop : Outcome ε (List α)) (depth : Nat) {n : Node} (hn : n ∈ root.preorder) :
    x.visitWithin visit stop depth n = x.visitWithin visit' stop depth n := by
  -- The induction goes from captions to what stands around them, and within that from below.
  induction depth generalizing n with
  | zero =>
    induction n using Node.induction with
    | step n ih =>
      rw [visitWithin, visitWithin, Node.fold_eq, Node.fold_eq, same n hn]
      refine congrArg (· >>= _) (Outcome.mapM_congr fun c hc => ?_)
      have below := Node.mem_parts_of_mem_children hc
      exact ih c below (Node.mem_preorder_of_mem_parts hn below)
  | succ depth shown =>
    induction n using Node.induction with
    | step n ih =>
      have caption : (x.captionAround n).mapM (x.visitWithin visit stop depth) =
          (x.captionAround n).mapM (x.visitWithin visit' stop depth) :=
        Outcome.mapM_congr fun c hc =>
          shown (mem_preorder_of_mem_captionAround coherent looked hn hc)
      rw [visitWithin, visitWithin, Node.fold_eq, Node.fold_eq, same n hn, caption]
      refine congrArg (· >>= _) (Outcome.mapM_congr fun c hc => ?_)
      have below := Node.mem_parts_of_mem_children hc
      exact ih c below (Node.mem_preorder_of_mem_parts hn below)

theorem visitAll_congr (coherent : root.Coherent) (looked : x.context = Context.of root)
    {visit visit' : Visit ε α} (same : ∀ n ∈ root.preorder, visit n = visit' n)
    (stop : Outcome ε (List α)) (depth : Nat) :
    x.visitAll visit stop depth root = x.visitAll visit' stop depth root := by
  have notes : (x.context.footnotes.entries.mapM fun entry =>
        entry.content.mapM (x.visitWithin visit stop depth)) =
      x.context.footnotes.entries.mapM fun entry =>
        entry.content.mapM (x.visitWithin visit' stop depth) := by
    refine Outcome.mapM_congr fun entry he => Outcome.mapM_congr fun n hn => ?_
    rw [looked] at he
    exact visitWithin_congr coherent looked same stop depth
      (mem_preorder_of_mem_entries coherent he hn)
  rw [visitAll, visitAll, notes,
    visitWithin_congr coherent looked same stop depth root.self_mem_preorder]

end

/-- The nodes that are written when a document is rendered are those that rules are called on, and
the surroundings of all of them are known. -/
structure MeetsKnownNodes (x : Export) (root : Node) : Prop where
  /-- Whatever is done to other nodes, the run is the same. -/
  only : ∀ handle, x.Follows handle → x.renderBy handle root = x.render root
  known : ∀ n, x.Written n → x.context.parents.Knows root n
  /-- Rendering is a run that makes texts of nodes by the rules. -/
  byRules : ∀ depth, x.transcodeWithin depth =
    x.visitWithin x.byRules (.fail .captionCycle) depth
  /-- Nothing else is met by runs that make anything else of nodes. -/
  anything : ∀ {ε α : Type} (visit visit' : Visit ε α),
    (∀ n, x.context.parents.Knows root n → visit n = visit' n) →
      ∀ stop depth, x.visitAll visit stop depth root = x.visitAll visit' stop depth root

/-- **Rules are called on nodes whose parents are known, and lead up to the document.** -/
theorem rules_meet_known_nodes (root : Node) (coherent : root.Coherent) (options : LeanpubOptions)
    (rules : RuleTable) (environment : Environment) :
    MeetsKnownNodes ⟨options, rules, environment, Context.of root⟩ root where
  only _ follows := renderBy_eq rfl follows
  known _ written := Parents.knows_of_mem coherent (written.mem_document coherent rfl)
  byRules := transcodeWithin_eq_visitWithin _
  anything _ _ same := visitAll_congr coherent rfl fun n hn =>
    same n (Parents.knows_of_mem coherent hn)

/-- Two images whose captions show each other, below a caption, a list and a footnote. -/
def mirrors : Node :=
  let first := picture 2 "a"
  let second := picture 4 "b"
  ⟨0, .document
    [⟨1, .paragraph [first, ⟨3, .paragraph [second] [first]⟩] [second]⟩,
      ⟨5, .footnoteDefinition "n" [⟨6, .list .bullets true [⟨7, .listItem none [first]⟩]⟩]⟩]⟩

theorem mirrors_coherent : mirrors.Coherent := by
  simp [Node.Coherent, mirrors, picture, Node.preorder_eq, Node.parts, Node.body, Body.parts,
    Body.children, Body.attached, Node.key]

theorem mirrors_known : mirrors.Coherent ∧
    MeetsKnownNodes ⟨.standard, .leanpub, ⟨"/home", "/"⟩, Context.of mirrors⟩ mirrors :=
  ⟨mirrors_coherent, rules_meet_known_nodes mirrors mirrors_coherent .standard .leanpub _⟩

end Leanpub.Export

end Manuscript
