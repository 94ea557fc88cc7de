import Manuscript.Proofs.Document.Ancestry

/-!
# The first parent of a node

The parents of a document are entered while a walk goes through it, so that a node that stands under
several others, or at several places under one, is met again and again:

* `ties`: what is entered, a parent and a node directly below it at a time;
* `of?_adopt`, `log_adopt`: what comes of entering one of them;
* `Charts`: what a map holds of the ties that were entered, kept by every further one;
* `of?_eq_some_iff`: the parent of a node is the first one on the walk;
* `mem_log_iff`: what is reported;
* `maps_first_parents`: both, and that every node but the root has an entry.
-/

namespace Manuscript

/-- The node is directly below `parent`, which a walk meets before all others that it is below. -/
def Node.FirstParent (root n parent : Node) : Prop :=
  ∃ before after, root.places = before ++ parent :: after ∧ n ∈ parent.parts ∧
    ∀ q ∈ before, n ∉ q.parts

theorem Node.mem_places_of_mem_parts {root p c : Node} (hp : p ∈ root.places) (hc : c ∈ p.parts) :
    c ∈ root.places := by
  rw [places_eq_preorder] at hp ⊢
  exact mem_preorder_of_mem_parts hp hc

namespace Parents

variable {root : Node} {parents : Parents}

/-- Every parent with each node directly below it. -/
def ties (nodes : List Node) : List (Node × Node) :=
  nodes.flatMap fun p => p.parts.map fun c => (p, c)

/-- Enters one tie. -/
def enter (parents : Parents) (tie : Node × Node) : Parents := adopt tie.1 parents tie.2

theorem ofRoot_eq (root : Node) : ofRoot root = (ties root.places).foldl enter empty := by
  rw [ties, List.foldl_flatMap]
  simp only [List.foldl_map]
  rfl

theorem mem_ties_iff {nodes : List Node} {p c : Node} :
    (p, c) ∈ ties nodes ↔ p ∈ nodes ∧ c ∈ p.parts := by
  simp [ties]

/-- The first tie to a node is one to the first parent that has it. -/
theorem find?_ties (nodes : List Node) (n : Node) :
    ((ties nodes).find? fun tie => tie.2.key == n.key).map Prod.fst =
      nodes.find? fun p => p.parts.any fun c => c.key == n.key := by
  induction nodes with
  | nil => rfl
  | cons p nodes ih =>
    have here : (p.parts.find? fun c => c.key == n.key).isSome =
        p.parts.any fun c => c.key == n.key := by
      rw [Bool.eq_iff_iff, List.find?_isSome, List.any_eq_true]
    have first : ((p.parts.map fun c => (p, c)).find? fun tie => tie.2.key == n.key).map Prod.fst =
        (p.parts.find? fun c => c.key == n.key).map fun _ => p := by
      rw [List.find?_map, Option.map_map]
      rfl
    rw [ties, List.flatMap_cons, ← ties, List.find?_append, Option.map_or, ih, first,
      List.find?_cons, ← here]
    cases p.parts.find? fun c => c.key == n.key <;> rfl

/-- What a tie is reported as: nothing, unless its node has another parent. -/
def warnings (parents : Parents) (tie : Node × Node) : List Event :=
  match parents.of? tie.2 with
  | none => []
  | some first =>
    if first.key = tie.1.key then []
    else [.sharedNode tie.2.kind first.kind tie.1.kind]

theorem adopt_of_none {c : Node} (h : parents.of? c = none) (p : Node) :
    adopt p parents c = ⟨parents.entries ++ [(c.key, p)], parents.log⟩ := by
  simp only [adopt, h]

theorem adopt_of_some {c first : Node} (h : parents.of? c = some first) (p : Node) :
    adopt p parents c = ⟨parents.entries, parents.log ++ parents.warnings (p, c)⟩ := by
  simp only [adopt, warnings, h]
  split <;> simp

/-- A node that has a parent keeps it, and one without any gets this one. -/
theorem of?_adopt (parents : Parents) (p c n : Node) :
    (adopt p parents c).of? n = (parents.of? n).or (if c.key == n.key then some p else none) := by
  cases h : parents.of? c with
  | none =>
    rw [adopt_of_none h, of?, List.lookup_append, List.lookup_cons, BEq.comm, of?]
    cases c.key == n.key <;> rfl
  | some first =>
    rw [adopt_of_some h]
    change parents.of? n = _
    cases same : c.key == n.key with
    | false => simp
    | true =>
      have found : parents.of? n = some first := by rw [← h, of?, of?, beq_iff_eq.1 same]
      simp [found]

theorem log_adopt (parents : Parents) (p c : Node) :
    (adopt p parents c).log = parents.log ++ (adopt p parents c).warnings (p, c) := by
  cases h : parents.of? c with
  | none =>
    have entered : (adopt p parents c).of? c = some p := by simp [of?_adopt, h]
    rw [warnings, entered, adopt_of_none h]
    simp
  | some first =>
    have kept : (adopt p parents c).of? c = parents.of? c := by simp [of?_adopt, h]
    rw [warnings, kept, adopt_of_some h, warnings]

theorem nodup_adopt (once : (parents.entries.map Prod.fst).Nodup) (p c : Node) :
    ((adopt p parents c).entries.map Prod.fst).Nodup := by
  cases h : parents.of? c with
  | none =>
    have fresh : c.key ∉ parents.entries.map Prod.fst := by
      intro entered
      obtain ⟨e, he, same⟩ := List.mem_map.1 entered
      have absent := List.lookup_eq_none_iff.1 h e he
      simp [same] at absent
    rw [adopt_of_none h, List.map_append, List.map_singleton, ← List.concat_eq_append]
    exact once.concat fresh
  | some first => rwa [adopt_of_some h]

/-- A map of the ties that were met. -/
structure Charts (met : List (Node × Node)) (parents : Parents) : Prop where
  once : (parents.entries.map Prod.fst).Nodup
  first : ∀ n, parents.of? n = (met.find? fun tie => tie.2.key == n.key).map Prod.fst
  log : parents.log = met.flatMap parents.warnings

namespace Charts

variable {met : List (Node × Node)} {tie : Node × Node}

theorem empty : Charts [] Parents.empty := ⟨.nil, fun _ => rfl, rfl⟩

/-- What is reported of a tie that was met stays right when others are entered. -/
theorem warnings_enter (charts : Charts met parents) (h : tie ∈ met) (next : Node × Node) :
    (parents.enter next).warnings tie = parents.warnings tie := by
  have known : (parents.of? tie.2).isSome := by
    rw [charts.first, Option.isSome_map, List.find?_isSome]
    exact ⟨tie, h, beq_self_eq_true _⟩
  obtain ⟨p, found⟩ := Option.isSome_iff_exists.1 known
  rw [warnings, warnings, found, enter, adopt_of?_of_some found]

theorem enter (charts : Charts met parents) (tie : Node × Node) :
    Charts (met ++ [tie]) (parents.enter tie) where
  once := nodup_adopt charts.once tie.1 tie.2
  first n := by
    rw [Parents.enter, of?_adopt, charts.first, List.find?_append, Option.map_or,
      List.find?_singleton]
    cases tie.2.key == n.key <;> rfl
  log := by
    have earlier : met.flatMap (parents.enter tie).warnings = parents.log := by
      rw [charts.log]
      exact List.flatMap_congr fun _ h => charts.warnings_enter h tie
    rw [List.flatMap_append, earlier, List.flatMap_singleton]
    exact log_adopt parents tie.1 tie.2

theorem enterAll (charts : Charts met parents) (more : List (Node × Node)) :
    Charts (met ++ more) (more.foldl Parents.enter parents) := by
  induction more generalizing met parents with
  | nil => simpa using charts
  | cons tie more ih => simpa using ih (charts.enter tie)

end Charts

theorem ofRoot_charts (root : Node) : Charts (ties root.places) (ofRoot root) := by
  have charts := Charts.empty.enterAll (ties root.places)
  rwa [List.nil_append, ← ofRoot_eq] at charts

/-- The parent of a node is the first one on the walk, and a node without any has none. -/
theorem of?_eq_find? (root n : Node) :
    (ofRoot root).of? n = root.places.find? fun p => p.parts.any fun c => c.key == n.key := by
  rw [(ofRoot_charts root).first, find?_ties]

section
variable (coherent : root.Coherent)
include coherent

theorem any_key_parts_iff {p n : Node} (hp : p ∈ root.places) (hn : n ∈ root.places) :
    (p.parts.any fun c => c.key == n.key) = true ↔ n ∈ p.parts := by
  rw [Node.places_eq_preorder] at hp hn
  exact coherent.any_key_iff hn fun _ hc => Node.mem_preorder_of_mem_parts hp hc

theorem of?_eq_some_iff {n p : Node} (hn : n ∈ root.places) :
    (ofRoot root).of? n = some p ↔ root.FirstParent n p := by
  rw [of?_eq_find?, List.find?_eq_some_iff_append]
  constructor
  · rintro ⟨below, before, after, split, none⟩
    have hp : p ∈ root.places := by simp [split]
    refine ⟨before, after, split, (any_key_parts_iff coherent hp hn).1 below, fun q hq inside => ?_⟩
    have hqr : q ∈ root.places := by simp [split, hq]
    have met := none q hq
    rw [(any_key_parts_iff coherent hqr hn).2 inside] at met
    cases met
  · rintro ⟨before, after, split, below, none⟩
    have hp : p ∈ root.places := by simp [split]
    refine ⟨(any_key_parts_iff coherent hp hn).2 below, before, after, split, fun q hq => ?_⟩
    have hqr : q ∈ root.places := by simp [split, hq]
    rw [Bool.not_eq_true', Bool.eq_false_iff, ne_eq, any_key_parts_iff coherent hqr hn]
    exact none q hq

/-- A node is reported for every further parent that it has. -/
theorem mem_log_iff {event : Event} :
    event ∈ (ofRoot root).log ↔ ∃ n p q, root.FirstParent n p ∧ q ∈ root.places ∧ n ∈ q.parts ∧
      q ≠ p ∧ event = .sharedNode n.kind p.kind q.kind := by
  rw [(ofRoot_charts root).log, List.mem_flatMap]
  constructor
  · rintro ⟨⟨q, n⟩, tie, reported⟩
    obtain ⟨hq, below⟩ := mem_ties_iff.1 tie
    have hqr := root.places_eq_preorder ▸ hq
    obtain ⟨p, found⟩ := exists_of? hqr below
    have hn := Node.mem_places_of_mem_parts hq below
    simp only [warnings, found] at reported
    split at reported
    next => cases reported
    next other =>
      refine ⟨n, p, q, (of?_eq_some_iff coherent hn).1 found, hq, below, ?_,
        List.mem_singleton.1 reported⟩
      rintro rfl
      exact other rfl
  · rintro ⟨n, p, q, first, hq, below, other, rfl⟩
    have hqr := root.places_eq_preorder ▸ hq
    have hn := Node.mem_places_of_mem_parts hq below
    have found := (of?_eq_some_iff coherent hn).2 first
    have hpr := (of?_sound coherent (root.places_eq_preorder ▸ hn) found).1
    have differ : p.key ≠ q.key := fun same => other (coherent p hpr q hqr same).symm
    refine ⟨(q, n), mem_ties_iff.2 ⟨hq, below⟩, ?_⟩
    simp only [warnings, found, if_neg differ, List.mem_singleton]

/-- Something is reported exactly if a node is directly below two nodes. -/
theorem exists_warning_iff :
    (∃ event ∈ (ofRoot root).log, event.severity = .warning) ↔
      ∃ n p q, p ∈ root.places ∧ q ∈ root.places ∧ n ∈ p.parts ∧ n ∈ q.parts ∧ p ≠ q := by
  constructor
  · rintro ⟨event, reported, -⟩
    obtain ⟨n, p, q, ⟨before, after, split, first, -⟩, hq, below, other, -⟩ :=
      (mem_log_iff coherent).1 reported
    exact ⟨n, p, q, by simp [split], hq, first, below, other.symm⟩
  · rintro ⟨n, p, q, hp, hq, hnp, hnq, differ⟩
    obtain ⟨first, found⟩ := exists_of? (root.places_eq_preorder ▸ hp) hnp
    have hn := Node.mem_places_of_mem_parts hp hnp
    have isFirst := (of?_eq_some_iff coherent hn).1 found
    -- Of two parents at least one is not the first.
    by_cases same : p = first
    · have other : q ≠ first := same ▸ differ.symm
      exact ⟨_, (mem_log_iff coherent).2 ⟨n, first, q, isFirst, hq, hnq, other, rfl⟩, rfl⟩
    · exact ⟨_, (mem_log_iff coherent).2 ⟨n, first, p, isFirst, hp, hnp, same, rfl⟩, rfl⟩

/-- There is an entry for every node but the root, and for nothing else. -/
theorem mem_keys_iff {key : Nat} :
    key ∈ (ofRoot root).entries.map Prod.fst ↔ ∃ n ∈ root.places, n ≠ root ∧ n.key = key := by
  simp only [Node.places_eq_preorder]
  constructor
  · intro entered
    obtain ⟨e, he, rfl⟩ := List.mem_map.1 entered
    obtain ⟨hp, c, hc, same⟩ := ofRoot_sound root e he
    refine ⟨c, Node.mem_preorder_of_mem_parts hp hc, ?_, same⟩
    rintro rfl
    exact absurd (Node.size_lt_of_mem_parts_of_mem hp hc) (Nat.lt_irrefl _)
  · rintro ⟨n, hn, other, rfl⟩
    obtain ⟨p, hp, below⟩ := (Node.exists_parent_of_mem_preorder hn).resolve_left other
    obtain ⟨q, found⟩ := exists_of? hp below
    exact List.mem_map.2 ⟨_, mem_entries_of_of? found, rfl⟩

end

/-- A map of the first parents of all nodes below a root, and of nothing else. -/
structure MapsFirstParents (root : Node) (parents : Parents) : Prop where
  once : (parents.entries.map Prod.fst).Nodup
  entered : ∀ key, key ∈ parents.entries.map Prod.fst ↔
    ∃ n ∈ root.places, n ≠ root ∧ n.key = key
  first : ∀ n ∈ root.places, ∀ p, parents.of? n = some p ↔ root.FirstParent n p
  warned : (∃ event ∈ parents.log, event.severity = .warning) ↔
    ∃ n p q, p ∈ root.places ∧ q ∈ root.places ∧ n ∈ p.parts ∧ n ∈ q.parts ∧ p ≠ q
  /-- Nothing else is reported, and every further parent is. -/
  reported : ∀ event, event ∈ parents.log ↔ ∃ n p q, root.FirstParent n p ∧ q ∈ root.places ∧
    n ∈ q.parts ∧ q ≠ p ∧ event = .sharedNode n.kind p.kind q.kind

/-- **Every node but the root has the first of its parents**, however often it is met, and a warning
is given exactly if it has another one. -/
theorem maps_first_parents (root : Node) (coherent : root.Coherent) :
    MapsFirstParents root (ofRoot root) where
  once := (ofRoot_charts root).once
  entered _ := mem_keys_iff coherent
  first _ hn _ := of?_eq_some_iff coherent hn
  warned := exists_warning_iff coherent
  reported _ := mem_log_iff coherent

/-- A word that stands twice under one parent, in a phrase that stands twice under one parent and
again under another, and once by itself. -/
def thicket : Node :=
  let word : Node := ⟨3, .text "w"⟩
  let phrase : Node := ⟨2, .styled .emphasis [word, word]⟩
  ⟨0, .document
    [⟨1, .paragraph [phrase, phrase] []⟩,
      ⟨4, .blockQuote [⟨5, .paragraph [phrase] [word]⟩]⟩]⟩

theorem thicket_coherent : thicket.Coherent := by
  simp [Node.Coherent, thicket, Node.preorder_eq, Node.parts, Node.body, Body.parts,
    Body.children, Body.attached, Node.key]

theorem thicket_first_parents : thicket.Coherent ∧ MapsFirstParents thicket (ofRoot thicket) :=
  ⟨thicket_coherent, maps_first_parents thicket thicket_coherent⟩

end Parents

end Manuscript
