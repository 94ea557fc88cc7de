import Mathlib.Data.Fintype.EquivFin
import Mathlib.Data.List.Flatten
import Manuscript.Proofs.Document.Refilled
import Manuscript.Proofs.Document.Shown

/-!
# Touring a document

A document is gone through with a stack. The last node on it is taken off and met, and what is
directly below that node is put on the stack, the first of it last. Nodes that stand at several
places form a graph in which no node is below itself; written out at all their places they are a
document.

* `Tour`, `Tour.round?`: how far a tour has come, and its next round;
* `Tour.exists_of_round?`, `Tour.further_of_le`: what a round does, and what many of them do, to the
  places that a tour has ahead of it;
* `Node.follow`, `Node.addresses`: places told from each other by the way down to them;
* `Graph`, `Graph.node`: nodes that are shared, and the document that one of them comes to;
* `tour_meets_places`: a tour meets every place once, in document order, and is over then.
-/

namespace Manuscript

/-! ## Rounds -/

/-- A way through nodes, of which each is met when it is taken off the stack. -/
structure Tour (α : Type) where
  /-- What is still to be met, the next one last. -/
  stack : List α
  met : List α
deriving DecidableEq

namespace Tour

variable {α : Type}

def start (root : α) : Tour α := ⟨[root], []⟩

/-- Meets the last node on the stack and puts those below it in its place. A tour with nothing on
its stack is over. -/
def round? (below : α → List α) (tour : Tour α) : Option (Tour α) :=
  tour.stack.getLast?.map fun n =>
    ⟨tour.stack.dropLast ++ (below n).reverse, tour.met ++ [n]⟩

/-- So many rounds, unless the tour is over before. -/
def after? (below : α → List α) : Nat → Tour α → Option (Tour α)
  | 0, tour => some tour
  | rounds + 1, tour => (tour.round? below).bind (after? below rounds)

/-- The document of every node has those of the nodes below it for its parts. -/
def WritesOut (below : α → List α) (document : α → Node) : Prop :=
  ∀ n, (document n).parts = (below n).map document

/-- The places that a tour has still ahead of it: those of the last document on the stack, then
those of the one before it, and so on. -/
def ahead (document : α → Node) (tour : Tour α) : List Node :=
  tour.stack.reverse.flatMap fun n => (document n).preorder

variable {below : α → List α} {document : α → Node} {tour next : Tour α}

theorem round?_concat (below : α → List α) (stack met : List α) (n : α) :
    round? below ⟨stack ++ [n], met⟩ = some ⟨stack ++ (below n).reverse, met ++ [n]⟩ := by
  simp [round?]

theorem round?_eq_none_iff : tour.round? below = none ↔ tour.stack = [] := by
  simp [round?]

theorem ahead_eq_nil_iff : tour.ahead document = [] ↔ tour.stack = [] := by
  have some : ∀ n : Node, n.preorder ≠ [] := by simp [Node.preorder_eq]
  obtain ⟨stack, met⟩ := tour
  cases stack using List.reverseRecOn with
  | nil => simp [ahead]
  | append_singleton stack n => simp [ahead, some]

theorem ahead_start (document : α → Node) (root : α) :
    (start root).ahead document = (document root).preorder := by
  simp [ahead, start]

/-- A round meets the first of the places ahead and leaves the others. -/
theorem exists_of_round? (writesOut : WritesOut below document)
    (h : tour.round? below = some next) :
    ∃ n, next.met = tour.met ++ [n] ∧
      tour.ahead document = document n :: next.ahead document := by
  obtain ⟨stack, met⟩ := tour
  cases stack using List.reverseRecOn with
  | nil => cases h
  | append_singleton stack n =>
    rw [round?_concat] at h
    cases h
    refine ⟨n, rfl, ?_⟩
    -- What is put on the stack in reverse comes off it from left to right.
    simp only [ahead, List.reverse_append, List.reverse_cons, List.reverse_nil, List.nil_append,
      List.cons_append, List.flatMap_cons, List.reverse_reverse, List.flatMap_append]
    rw [Node.preorder_eq, writesOut n, List.flatMap_map, List.cons_append]

/-- What has become of a tour that had met `met` and had `ahead` before it, so many rounds later. -/
structure Further (document : α → Node) (met : List α) (ahead : List Node) (rounds : Nat)
    (next : Tour α) : Prop where
  met : next.met.map document = met.map document ++ ahead.take rounds
  ahead : next.ahead document = ahead.drop rounds

/-- There is a round for every place ahead. -/
theorem further_of_le (writesOut : WritesOut below document) {rounds : Nat}
    (enough : rounds ≤ (tour.ahead document).length) :
    ∃ next, tour.after? below rounds = some next ∧
      Further document tour.met (tour.ahead document) rounds next := by
  induction rounds generalizing tour with
  | zero => exact ⟨tour, rfl, by simp, by simp⟩
  | succ rounds ih =>
    cases round : tour.round? below with
    | none =>
      rw [ahead_eq_nil_iff.2 (round?_eq_none_iff.1 round)] at enough
      cases enough
    | some first =>
      obtain ⟨n, met, ahead⟩ := exists_of_round? writesOut round
      rw [ahead, List.length_cons] at enough
      obtain ⟨next, later, further⟩ := ih (Nat.le_of_succ_le_succ enough)
      refine ⟨next, by rw [after?, round, Option.bind_some, later], ?_, ?_⟩
      · rw [further.met, met, ahead]
        simp
      · rw [further.ahead, ahead, List.drop_succ_cons]

/-- There is no round without a place ahead. -/
theorem after?_eq_none (writesOut : WritesOut below document) {rounds : Nat}
    (more : (tour.ahead document).length < rounds) : tour.after? below rounds = none := by
  induction rounds generalizing tour with
  | zero => cases more
  | succ rounds ih =>
    cases round : tour.round? below with
    | none => rw [after?, round, Option.bind_none]
    | some first =>
      obtain ⟨n, -, ahead⟩ := exists_of_round? writesOut round
      rw [ahead, List.length_cons] at more
      rw [after?, round, Option.bind_some, ih (Nat.lt_of_succ_lt_succ more)]

end Tour

/-! ## Addresses -/

namespace Node

/-- Goes down from a node, each time to the part at the next position of an address. -/
def follow : Node → List Nat → Option Node
  | n, [] => some n
  | n, position :: address => n.parts[position]?.bind fun c => c.follow address

/-- The addresses at which something stands below a node, in document order. -/
def addresses (n : Node) : List (List Nat) :=
  [] :: n.parts.attach.zipIdx.flatMap fun (⟨c, _⟩, position) =>
    (addresses c).map (position :: ·)
termination_by n
decreasing_by exact sizeOf_lt_of_mem_parts ‹_›

theorem addresses_eq (n : Node) :
    n.addresses = [] :: n.parts.zipIdx.flatMap fun part =>
      part.1.addresses.map (part.2 :: ·) := by
  have unattached : n.parts.zipIdx = n.parts.attach.zipIdx.map fun part => (part.1.1, part.2) := by
    conv => lhs; rw [← List.attach_map_subtype_val n.parts, List.zipIdx_map]
    rfl
  rw [addresses, unattached, List.flatMap_map]

theorem mem_addresses_iff {n : Node} {address : List Nat} :
    address ∈ n.addresses ↔ (n.follow address).isSome := by
  induction address generalizing n with
  | nil => simp [addresses_eq n, follow]
  | cons position address ih =>
    rw [addresses_eq, List.mem_cons, List.mem_flatMap, follow]
    constructor
    · rintro (⟨⟨⟩⟩ | ⟨⟨c, _⟩, part, inside⟩)
      obtain ⟨_, among, ⟨rfl, rfl⟩⟩ := List.mem_map.1 inside
      rw [List.mk_mem_zipIdx_iff_getElem?.1 part]
      exact ih.1 among
    · intro found
      obtain ⟨m, found⟩ := Option.isSome_iff_exists.1 found
      obtain ⟨c, part, below⟩ := Option.bind_eq_some_iff.1 found
      have among : address ∈ c.addresses := ih.2 (Option.isSome_iff_exists.2 ⟨m, below⟩)
      exact .inr ⟨(c, position), List.mk_mem_zipIdx_iff_getElem?.2 part,
        List.mem_map_of_mem among⟩

/-- Addresses are listed as in a dictionary: a node before what is below it, and everything at one
position before everything at a later one. -/
theorem pairwise_addresses (n : Node) : n.addresses.Pairwise (· < ·) := by
  induction n using Node.induction with
  | step n ih =>
    rw [addresses_eq, List.pairwise_cons, List.pairwise_flatMap]
    refine ⟨?_, ?_, ?_⟩
    · intro address among
      obtain ⟨part, -, inside⟩ := List.mem_flatMap.1 among
      obtain ⟨rest, -, rfl⟩ := List.mem_map.1 inside
      exact List.nil_lt_cons ..
    · rintro ⟨c, position⟩ part
      have hc : c ∈ n.parts := List.mem_of_getElem? (List.mk_mem_zipIdx_iff_getElem?.1 part)
      rw [List.pairwise_map]
      exact (ih c hc).imp fun earlier => List.cons_lt_cons_iff.2 (.inr ⟨rfl, earlier⟩)
    · have positions : (n.parts.zipIdx.map Prod.snd).Pairwise (· < ·) := by
        rw [List.zipIdx_map_snd]
        exact List.pairwise_lt_range'
      rw [List.pairwise_map] at positions
      refine positions.imp fun earlier address inside other inside' => ?_
      obtain ⟨_, -, rfl⟩ := List.mem_map.1 inside
      obtain ⟨_, -, rfl⟩ := List.mem_map.1 inside'
      exact List.cons_lt_cons_iff.2 (.inl earlier)

theorem map_follow_addresses (n : Node) : n.addresses.map n.follow = n.preorder.map some := by
  induction n using Node.induction with
  | step n ih =>
    have each : ∀ part ∈ n.parts.zipIdx,
        (part.1.addresses.map (part.2 :: ·)).map n.follow = part.1.preorder.map some := by
      rintro ⟨c, position⟩ part
      have found : n.parts[position]? = some c := List.mk_mem_zipIdx_iff_getElem?.1 part
      rw [← ih c (List.mem_of_getElem? found), List.map_map]
      apply List.map_congr_left
      intro address _
      rw [Function.comp_apply, follow, found, Option.bind_some]
    calc n.addresses.map n.follow
        = some n :: n.parts.zipIdx.flatMap fun part => part.1.preorder.map some := by
          rw [addresses_eq, List.map_cons, List.map_flatMap, List.flatMap_congr each]
          rfl
      _ = some n :: (n.parts.zipIdx.map Prod.fst).flatMap fun c => c.preorder.map some := by
          rw [List.flatMap_map]
      _ = n.preorder.map some := by
          rw [List.zipIdx_map_fst, n.preorder_eq, List.map_cons, List.map_flatMap]

/-- What is rendered at the place of a node is part of what stands there, in the same order. -/
theorem shown_sublist_preorder (n : Node) : (n.shown fun _ => false).Sublist n.preorder := by
  induction n using Node.induction with
  | step n ih =>
    rw [shown_eq, if_neg Bool.false_ne_true, preorder_eq, parts_eq, List.flatMap_append]
    refine List.Sublist.cons_cons n (List.Sublist.trans ?_ (List.sublist_append_left _ _))
    exact List.Sublist.flatMap_right _ fun c hc => ih c (mem_parts_of_mem_children hc)

end Node

/-! ## Graphs -/

/-- Finitely many nodes, each of which may stand at any number of places, but not below itself. -/
structure Graph where
  count : Nat
  body : Fin count → Body (Fin count)
  acyclic : ∀ a, ¬ Relation.TransGen (fun c p => c ∈ (body p).parts) a a

/-- Only what is put in the place of its parts matters to a body. -/
theorem Body.map_congr {α β : Type} {f g : α → β} {b : Body α}
    (same : ∀ a ∈ b.parts, f a = g a) : b.map f = b.map g := by
  cases b with
  | table header rows alignments => cases header <;> simp_all [map, parts, children, attached]
  | footnoteReference label definition =>
    cases definition <;> simp_all [map, parts, children, attached]
  | _ => simp_all [map, parts, children, attached]

namespace Graph

variable (g : Graph)

/-- What is directly below a node, in document order. -/
def below (a : Fin g.count) : List (Fin g.count) := (g.body a).parts

/-- The way down from a node comes to an end. -/
theorem below_wellFounded : WellFounded fun c p => c ∈ g.below p := by
  have irrefl : Std.Irrefl (Relation.TransGen fun c p => c ∈ g.below p) := ⟨g.acyclic⟩
  have closure : WellFounded (Relation.TransGen fun c p => c ∈ g.below p) :=
    Finite.wellFounded_of_trans_of_irrefl _
  exact Subrelation.wf (fun h => Relation.TransGen.single h) closure

/-- The document that a node comes to if every node below it is written out wherever it stands. -/
def node (a : Fin g.count) : Node :=
  ⟨a, (g.body a).map fun c => if c ∈ g.below a then node c else ⟨c, .thematicBreak⟩⟩
termination_by g.below_wellFounded.wrap a
decreasing_by assumption

theorem node_eq (a : Fin g.count) : g.node a = ⟨a, (g.body a).map g.node⟩ := by
  rw [node]
  congr 1
  exact Body.map_congr fun c hc => if_pos hc

theorem writesOut_node : Tour.WritesOut g.below g.node := by
  intro a
  rw [node_eq]
  exact Body.parts_map ..

end Graph

/-! ## Whole tours -/

/-- A tour through all that is below a node. -/
structure Toured {α : Type} (below : α → List α) (document : α → Node) (root : α) : Prop where
  /-- After so many rounds so many places have been met, and those of the documents on the stack,
  from its end on, are the others. -/
  rounds : ∀ k ≤ (document root).size, ∃ tour, (Tour.start root).after? below k = some tour ∧
    tour.met.map document = (document root).preorder.take k ∧
    (tour.stack.reverse.flatMap fun n => (document n).preorder) = (document root).preorder.drop k
  /-- When all places have been met the stack is empty. -/
  complete : ∃ met, (Tour.start root).after? below (document root).size = some ⟨[], met⟩ ∧
    met.map document = (document root).preorder
  ended : ∀ k, (document root).size < k → (Tour.start root).after? below k = none
  /-- A walk through the document meets them, too. -/
  walked : (document root).places = (document root).preorder
  /-- The places are the node itself and those of the nodes below it, from left to right. -/
  order : (document root).preorder =
    document root :: (below root).flatMap fun c => (document c).preorder
  /-- They are all there are below the node, each of them once, ordered as their addresses are. -/
  inside : ∀ address,
    address ∈ (document root).addresses ↔ ((document root).follow address).isSome
  ordered : (document root).addresses.Pairwise (· < ·)
  listed : (document root).addresses.map (document root).follow =
    (document root).preorder.map some
  /-- What is rendered at the place of the node is met in the same order. -/
  shown : ((document root).shown fun _ => false).Sublist (document root).preorder

theorem toured_of_writesOut {α : Type} {below : α → List α} {document : α → Node}
    (writesOut : Tour.WritesOut below document) (root : α) : Toured below document root := by
  have start := Tour.ahead_start document root
  have length : ((Tour.start root).ahead document).length = (document root).size :=
    congrArg List.length start
  constructor
  case rounds =>
    intro k enough
    obtain ⟨tour, after, further⟩ := Tour.further_of_le writesOut (length ▸ enough)
    rw [start] at further
    exact ⟨tour, after, further.met, further.ahead⟩
  case complete =>
    obtain ⟨⟨stack, met⟩, after, further⟩ :=
      Tour.further_of_le writesOut (Nat.le_of_eq length.symm)
    have empty : stack = [] := by
      refine Tour.ahead_eq_nil_iff.1 (further.ahead.trans (List.drop_eq_nil_iff.2 ?_))
      exact Nat.le_of_eq length
    have all := further.met
    rw [← length, List.take_length, start] at all
    exact ⟨met, empty ▸ after, all⟩
  case ended => exact fun k more => Tour.after?_eq_none writesOut (length ▸ more)
  case walked => exact (document root).places_eq_preorder
  case order => rw [Node.preorder_eq, writesOut root, List.flatMap_map]
  case inside => exact fun _ => Node.mem_addresses_iff
  case ordered => exact (document root).pairwise_addresses
  case listed => exact (document root).map_follow_addresses
  case shown => exact (document root).shown_sublist_preorder

/-- **A tour meets every place once, in document order, and is over then**, however nodes are
shared; and so does one through a document in which they are written out. -/
theorem tour_meets_places :
    (∀ (g : Graph) (root : Fin g.count), Toured g.below g.node root) ∧
      ∀ root : Node, Toured Node.parts id root := by
  constructor
  · exact fun g root => toured_of_writesOut g.writesOut_node root
  · exact fun root => toured_of_writesOut (fun n => (List.map_id n.parts).symm) root

/-- A node that stands at three places is met three times. -/
example : (Tour.start 2).after? (fun | 0 => [] | 1 => [0] | _ => [0, 1, 0]) 5 =
    some ⟨[], [2, 0, 1, 0, 0]⟩ := by decide

end Manuscript
