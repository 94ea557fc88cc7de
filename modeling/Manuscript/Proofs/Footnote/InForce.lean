import Manuscript.Proofs.Footnote.Accounting

/-!
# Which references have a number

Of several definitions of a label the first one counts, and the others are never searched for
references. What stands in one of the others can be reached by no other way:

* `Footnote.Stands`: the places of a node, each with the nearest definition of a label around it;
* `Footnote.InForce`: a node that stands at some place in no definition of a label, or in one that
  counts;
* `inForce_of_distinct`: where no label is defined twice every node is in force;
* `called_subset_keys`: what is called in a node in force has a number;
* `defined_or_inForce`: a footnote with a number has a definition or is called in force;
* `numbered_iff_inForce`: a reference by a label has a number if the label is defined or called in
  force, any other reference if it is in force itself, and in no other case.
-/

namespace Manuscript

namespace Node

/-- The node defines the label. -/
def defines (n : Node) (label : String) : Bool := n.definition?.any (·.1 == label)

/-- The nearest definition of a label around what stands directly below a node, if `around` is the
nearest one around the node. -/
def nearest (n : Node) (around : Option Node) : Option Node :=
  if n.definition?.isSome then some n else around

theorem nearest_of_undefined {n : Node} (h : n.definition? = none) (around : Option Node) :
    n.nearest around = around := by
  simp [nearest, h]

theorem nearest_of_defined {n : Node} {d : Footnote.Definition} (h : n.definition? = some d)
    (around : Option Node) : n.nearest around = some n := by
  simp [nearest, h]

theorem kind_ne_of_undefined {n : Node} (h : n.definition? = none) :
    n.kind ≠ .footnoteDefinition := by
  intro kind
  obtain ⟨key, body⟩ := n
  cases body with
  | footnoteDefinition label content => cases h
  | styled style content => cases style <;> cases kind
  | _ => cases kind

/-- Only footnote definitions and references with a label define labels. -/
theorem undefined_of_unlabelled {n : Node} (kind : n.kind ≠ .footnoteDefinition)
    (unlabelled : ∀ label, n.footnoteKey? ≠ some (.label label)) : n.definition? = none := by
  unfold definition?
  unfold footnoteKey? Footnote.keyOf at unlabelled
  split
  next hb => simp [Node.kind, hb, Body.kind] at kind
  next label content hb =>
    cases given : Footnote.given? label with
    | none => rfl
    | some l => simp [hb, given] at unlabelled
  next => rfl

theorem undefined_of_anonymous {n : Node} (anonymous : n.footnoteKey? = some (.anonymous n.key)) :
    n.definition? = none := by
  refine undefined_of_unlabelled (fun kind => ?_) (by simp [anonymous])
  rw [footnoteKey?] at anonymous
  split at anonymous
  next hb => simp [Node.kind, hb, Body.kind] at kind
  next => cases anonymous

/-- A reference with a label that brings a content of its own defines the label. -/
theorem parts_of_undefined_label {n : Node} {label : String}
    (calls : n.footnoteKey? = some (.label label)) (undefined : n.definition? = none) :
    n.parts = [] := by
  rw [parts_of_footnoteKey? calls]
  unfold footnoteKey? Footnote.keyOf at calls
  unfold definition? at undefined
  split at calls
  next label' definition hb =>
    cases definition with
    | none => simp [attached, hb, Body.attached]
    | some content => simp_all
  next => cases calls

end Node

namespace Footnote

variable {root : Node}

/-- `Stands root around n`: the node stands somewhere in the document, and of the nodes on the way
to it from the root `around` is the last that defines a label. An anonymous reference defines none
by what it brings of its own. -/
inductive Stands (root : Node) : Option Node → Node → Prop where
  | root : Stands root none root
  | part {around : Option Node} {n c : Node} (above : Stands root around n) (below : c ∈ n.parts) :
      Stands root (n.nearest around) c

/-- The node is the first in document order to define its label. -/
def Counts (root d : Node) : Prop :=
  ∃ label, d.defines label = true ∧ root.preorder.find? (·.defines label) = some d

/-- The node stands somewhere where no definition of a label is around it, or where the nearest one
is the first of its label. -/
def InForce (root n : Node) : Prop :=
  ∃ around, Stands root around n ∧ ∀ d, around = some d → Counts root d

theorem Stands.mem_preorder {around : Option Node} {n : Node} (h : Stands root around n) :
    n ∈ root.preorder := by
  induction h with
  | root => exact root.self_mem_preorder
  | part _ below ih => exact Node.mem_preorder_of_mem_parts ih below

/-- Every node below one that stands somewhere does so, too. -/
theorem Stands.exists_below {around : Option Node} {n m : Node} (h : Stands root around n)
    (hm : m ∈ n.preorder) : ∃ around', Stands root around' m := by
  induction n using Node.induction generalizing around with
  | step n ih =>
    rcases Node.mem_preorder_iff.1 hm with rfl | ⟨c, hc, below⟩
    · exact ⟨around, h⟩
    · exact ih c hc (.part h hc) below

theorem lookup_definitions (nodes : List Node) (label : String) :
    (nodes.filterMap Node.definition?).lookup label =
      (nodes.find? (·.defines label)).bind fun d => d.definition?.map Prod.snd := by
  induction nodes with
  | nil => rfl
  | cons n nodes ih =>
    cases found : n.definition? with
    | none => simpa [found, Node.defines] using ih
    | some d =>
      obtain ⟨l, content⟩ := d
      by_cases same : l = label
      · simp [found, Node.defines, same]
      · have other : (label == l) = false := by simpa using Ne.symm same
        have passed : n.defines label = false := by simp [Node.defines, found, same]
        rw [List.filterMap_cons_some found, List.lookup_cons, other, ih,
          List.find?_cons_of_neg (by simp [passed])]

/-- The content that counts for a label is that of the first node that defines it. -/
theorem contentOf_label_eq_some_iff {label : String} {nodes : List Node} :
    contentOf root (.label label) = some nodes ↔
      ∃ d, root.preorder.find? (·.defines label) = some d ∧
        d.definition? = some (label, nodes) := by
  rw [contentOf, Node.definitions, Node.places_eq_preorder, lookup_definitions]
  constructor
  · intro h
    obtain ⟨d, found, content⟩ := Option.bind_eq_some_iff.1 h
    obtain ⟨⟨l, nodes⟩, defines, rfl⟩ := Option.map_eq_some_iff.1 content
    have named := List.find?_some found
    simp only [Node.defines, defines, Option.any_some, beq_iff_eq] at named
    exact ⟨d, found, named ▸ defines⟩
  · rintro ⟨d, found, defines⟩
    rw [found, Option.bind_some, defines]
    rfl

theorem mem_successors_iff {key other : Key} :
    other ∈ successors root key ↔
      ∃ nodes, contentOf root key = some nodes ∧ ∃ c ∈ nodes, other ∈ c.called := by
  unfold successors
  cases contentOf root key <;> simp

/-- What counts for a label stands in the node that defines it. -/
theorem exists_counts_of_contentOf {label : String} {nodes : List Node}
    (content : contentOf root (.label label) = some nodes) :
    ∃ d, Counts root d ∧ ∀ c ∈ nodes, Stands root (some d) c := by
  obtain ⟨d, found, defines⟩ := contentOf_label_eq_some_iff.1 content
  obtain ⟨around, stands⟩ := Stands.root.exists_below (List.mem_of_find?_eq_some found)
  refine ⟨d, ⟨label, by simpa using List.find?_some found, found⟩, fun c hc => ?_⟩
  rw [← Node.nearest_of_defined defines around]
  exact .part stands (Node.parts_of_definition? defines ▸ hc)

/-- A definition around what an anonymous reference brings is around the reference. -/
theorem Stands.attached {around : Option Node} {r c : Node} (h : Stands root around r)
    (anonymous : r.footnoteKey? = some (.anonymous r.key)) (hc : c ∈ r.attached) :
    Stands root around c := by
  rw [← Node.nearest_of_undefined (Node.undefined_of_anonymous anonymous) around]
  exact .part h (List.mem_append_right _ hc)

/-- What is called in a node is called by a reference below it, with the same definition around. -/
theorem Stands.exists_reference {around : Option Node} {n : Node} {key : Key}
    (h : Stands root around n) (called : key ∈ n.called) :
    ∃ r, Stands root around r ∧ r.footnoteKey? = some key := by
  induction n using Node.induction generalizing around with
  | step n ih =>
    rw [Node.called_eq] at called
    split at called
    next => cases called
    next kind =>
      split at called
      next found =>
        obtain rfl := List.mem_singleton.1 called
        exact ⟨n, h, found⟩
      next found =>
        obtain ⟨c, hc, called⟩ := List.mem_flatMap.1 called
        have undefined := Node.undefined_of_unlabelled kind (by simp [found])
        exact ih c hc (Node.nearest_of_undefined undefined around ▸ .part h hc) called

/-- Two nodes that define one label are the same where no label is defined twice. -/
theorem eq_of_defines (distinct : (root.definitions.map Prod.fst).Nodup) {m n : Node}
    (hm : m ∈ root.preorder) (hn : n ∈ root.preorder) {label : String}
    (defines : m.defines label = true) (defines' : n.defines label = true) : m = n := by
  rw [Node.definitions, Node.places_eq_preorder, List.Nodup, List.pairwise_map,
    List.pairwise_filterMap] at distinct
  have apart : root.preorder.Pairwise fun a b =>
      ¬ (a.defines label = true ∧ b.defines label = true) := by
    refine distinct.imp fun apart both => ?_
    obtain ⟨d, found, same⟩ := (Option.any_eq_true ..).1 both.1
    obtain ⟨d', found', same'⟩ := (Option.any_eq_true ..).1 both.2
    exact apart d found d' found' ((beq_iff_eq.1 same).trans (beq_iff_eq.1 same').symm)
  have : Std.Symm fun a b : Node => ¬ (a.defines label = true ∧ b.defines label = true) :=
    ⟨fun _ _ apart both => apart both.symm⟩
  exact Classical.byContradiction fun ne => apart.forall hm hn ne ⟨defines, defines'⟩

theorem Stands.defined_around {around : Option Node} {n d : Node} (h : Stands root around n)
    (nearest : around = some d) : d ∈ root.preorder ∧ ∃ label, d.defines label = true := by
  induction h with
  | root => cases nearest
  | @part above n c stands below ih =>
    cases defines : n.definition? with
    | none =>
      rw [Node.nearest_of_undefined defines] at nearest
      exact ih nearest
    | some definition =>
      rw [Node.nearest_of_defined defines] at nearest
      cases nearest
      exact ⟨stands.mem_preorder, definition.1, by simp [Node.defines, defines]⟩

/-- Where no label is defined twice every node of the document is in force. -/
theorem inForce_of_distinct (distinct : (root.definitions.map Prod.fst).Nodup) {n : Node}
    (hn : n ∈ root.preorder) : InForce root n := by
  obtain ⟨around, stands⟩ := Stands.root.exists_below hn
  refine ⟨around, stands, fun d nearest => ?_⟩
  obtain ⟨hd, label, defines⟩ := Stands.defined_around stands nearest
  obtain ⟨first, found⟩ : ∃ first, root.preorder.find? (·.defines label) = some first :=
    Option.isSome_iff_exists.1 (List.find?_isSome.2 ⟨d, hd, defines⟩)
  have named : first.defines label = true := by simpa using List.find?_some found
  have same : first = d := eq_of_defines distinct (List.mem_of_find?_eq_some found) hd named defines
  exact ⟨label, defines, same ▸ found⟩

namespace Index

theorem mem_keys_of_successor (coherent : root.Coherent) {key other : Key}
    (h : key ∈ (ofRoot root).keys) (next : other ∈ successors root key) :
    other ∈ (ofRoot root).keys :=
  (ofRoot_search coherent).order.closed h (by simp [empty]) next

/-- A footnote with a number is defined, or a reference to it is in force. -/
theorem defined_or_inForce (document : root.kind = .document) (coherent : root.Coherent) :
    ∀ key ∈ (ofRoot root).keys, (∃ label, key = .label label ∧ Defined root label) ∨
      ∃ r, r.footnoteKey? = some key ∧ InForce root r := by
  refine (ofRoot_search coherent).order.forall_mem ?listed (by simp [empty]) ?step
  case listed =>
    intro key hkey
    rcases List.mem_append.1 hkey with hkey | hkey
    · obtain ⟨c, hc, called⟩ := List.mem_flatMap.1 hkey
      have top : Stands root none c := by
        rw [← Node.nearest_of_undefined (Node.undefined_of_document document) none]
        exact .part .root (Node.mem_parts_of_mem_children hc)
      obtain ⟨r, stands, calls⟩ := top.exists_reference called
      exact .inr ⟨r, calls, none, stands, by simp⟩
    · obtain ⟨d, hd, rfl⟩ := List.mem_map.1 (List.mem_eraseDups.1 hkey)
      obtain ⟨n, hn, defines⟩ := Node.mem_definitions_iff.1 hd
      exact .inl ⟨d.1, rfl, n, hn, d.2, defines⟩
  case step =>
    intro key numbered other next
    obtain ⟨nodes, content, c, hc, called⟩ := mem_successors_iff.1 next
    right
    cases key with
    | label label =>
      obtain ⟨d, counts, stands⟩ := exists_counts_of_contentOf content
      obtain ⟨r, inside, calls⟩ := (stands c hc).exists_reference called
      exact ⟨r, calls, some d, inside, by simpa using counts⟩
    | anonymous reference =>
      obtain ⟨_, same, -⟩ | ⟨q, anonymous, around, stands, force⟩ := numbered
      · cases same
      · obtain rfl := key_eq_of_footnoteKey? anonymous
        rw [contentOf_anonymous coherent stands.mem_preorder anonymous] at content
        cases content
        obtain ⟨r, inside, calls⟩ := (stands.attached anonymous hc).exists_reference called
        exact ⟨r, calls, around, inside, force⟩

/-- What is called in a node in force has a number. -/
theorem called_subset_keys (document : root.kind = .document) (coherent : root.Coherent)
    {around : Option Node} {n : Node} (stands : Stands root around n)
    (force : ∀ d, around = some d → Counts root d) : n.called ⊆ (ofRoot root).keys := by
  -- Along the way from the root: a definition that counts is searched because its label is defined,
  -- and what an anonymous reference brings because the reference has a number itself.
  induction stands with
  | root =>
    intro key called
    obtain ⟨children, hb⟩ := Node.exists_body_of_document document
    have text : root.called = root.children.flatMap Node.called := by
      rw [Node.called_eq]
      simp [document, Node.footnoteKey?, Node.parts, Node.children, hb, Body.parts, Body.attached]
    rw [text] at called
    exact (ofRoot_search coherent).order.mem (List.mem_append_left _ called)
  | @part around n c above below ih =>
    intro key called
    cases defines : n.definition? with
    | some d =>
      obtain ⟨label, content⟩ := d
      rw [Node.nearest_of_defined defines] at force
      obtain ⟨l, named, first⟩ := force n rfl
      have same : label = l := by simpa [Node.defines, defines] using named
      have counts : contentOf root (.label label) = some content :=
        contentOf_label_eq_some_iff.2 ⟨n, same ▸ first, defines⟩
      have numbered : .label label ∈ (ofRoot root).keys := number?_isSome_iff.1
        (number?_of_defined coherent ⟨n, above.mem_preorder, content, defines⟩)
      have inside : c ∈ content := Node.parts_of_definition? defines ▸ below
      exact mem_keys_of_successor coherent numbered
        (mem_successors_iff.2 ⟨content, counts, c, inside, called⟩)
    | none =>
      rw [Node.nearest_of_undefined defines] at force
      have numbered := ih force
      cases calls : n.footnoteKey? with
      | none =>
        rw [Node.called_eq, if_neg (Node.kind_ne_of_undefined defines), calls] at numbered
        exact numbered (List.mem_flatMap.2 ⟨c, below, called⟩)
      | some own =>
        rw [Node.called_of_footnoteKey? calls] at numbered
        cases own with
        | label label =>
          rw [Node.parts_of_undefined_label calls defines] at below
          cases below
        | anonymous reference =>
          obtain rfl := key_eq_of_footnoteKey? calls
          have content := contentOf_anonymous coherent above.mem_preorder calls
          have inside : c ∈ n.attached := Node.parts_of_footnoteKey? calls ▸ below
          exact mem_keys_of_successor coherent (numbered List.mem_cons_self)
            (mem_successors_iff.2 ⟨_, content, c, inside, called⟩)

theorem mem_keys_of_inForce (document : root.kind = .document) (coherent : root.Coherent) {r : Node}
    {key : Key} (calls : r.footnoteKey? = some key) (force : InForce root r) :
    key ∈ (ofRoot root).keys := by
  obtain ⟨around, stands, force⟩ := force
  refine called_subset_keys document coherent stands force ?_
  rw [Node.called_of_footnoteKey? calls]
  exact List.mem_cons_self

theorem exists_numberFor_iff {key : Key} :
    (∃ number, (Context.of root).numberFor key = .ok number) ↔ key ∈ (ofRoot root).keys := by
  rw [← number?_isSome_iff]
  exact exists_congr fun number => numberFor_eq_ok_iff

/-- An anonymous reference has a number when it is in force itself. -/
theorem mem_keys_anonymous_iff (document : root.kind = .document) (coherent : root.Coherent)
    {r : Node} (hr : r ∈ root.preorder) (calls : r.footnoteKey? = some (.anonymous r.key)) :
    .anonymous r.key ∈ (ofRoot root).keys ↔ InForce root r := by
  constructor
  · intro numbered
    obtain ⟨_, same, -⟩ | ⟨s, calls', force⟩ := defined_or_inForce document coherent _ numbered
    · cases same
    · have same : s = r := by
        obtain ⟨around, stands, -⟩ := force
        exact coherent s stands.mem_preorder r hr (key_eq_of_footnoteKey? calls')
      exact same ▸ force
  · exact mem_keys_of_inForce document coherent calls

theorem mem_keys_label_iff (document : root.kind = .document) (coherent : root.Coherent)
    {label : String} : .label label ∈ (ofRoot root).keys ↔
      Defined root label ∨ ∃ s, s.footnoteKey? = some (.label label) ∧ InForce root s := by
  constructor
  · intro numbered
    obtain ⟨_, same, defined⟩ | found := defined_or_inForce document coherent _ numbered
    · cases same
      exact .inl defined
    · exact .inr found
  · rintro (defined | ⟨s, calls, force⟩)
    · exact number?_isSome_iff.1 (number?_of_defined coherent defined)
    · exact mem_keys_of_inForce document coherent calls force

/-- The references of a document that have a number. -/
structure NumberedInForce (root : Node) : Prop where
  anonymous : ∀ r ∈ root.preorder, r.footnoteKey? = some (.anonymous r.key) →
    ((∃ number, (Context.of root).numberFor (.anonymous r.key) = .ok number) ↔ InForce root r)
  /-- One reference in force is enough for all that share its label. -/
  labelled : ∀ r ∈ root.preorder, ∀ label, r.footnoteKey? = some (.label label) →
    ((∃ number, (Context.of root).numberFor (.label label) = .ok number) ↔
      Defined root label ∨ ∃ s, s.footnoteKey? = some (.label label) ∧ InForce root s)
  /-- To ask for the number of any other reference fails. -/
  otherwise : ∀ r ∈ root.preorder, ∀ key, r.footnoteKey? = some key →
    (¬ ∃ number, (Context.of root).numberFor key = .ok number) →
      (Context.of root).numberFor key = .error (.unnumbered key)

/-- **References have a number where they are in force.** -/
theorem numbered_iff_inForce (root : Node) (document : root.kind = .document)
    (coherent : root.Coherent) : NumberedInForce root where
  anonymous r hr calls := by
    rw [exists_numberFor_iff, mem_keys_anonymous_iff document coherent hr calls]
  labelled r hr label calls := by
    rw [exists_numberFor_iff, mem_keys_label_iff document coherent]
  otherwise r hr key calls unnumbered := by
    cases number : (Context.of root).numberFor key with
    | ok number => exact absurd ⟨_, number⟩ unnumbered
    | error e =>
      unfold Context.numberFor at number
      split at number <;> cases number
      rfl

/-- Two definitions of a label. An anonymous reference stands in the first one, and brings another
that stands in the second one, too; an anonymous reference and one to a label that nothing defines
stand in the second one only. -/
def disputed : Node :=
  let both : Node := ⟨5, .footnoteReference none (some [⟨6, .text "both"⟩])⟩
  let brought : Node := ⟨4, .footnoteReference none (some [both])⟩
  ⟨0, .document
    [⟨1, .footnoteDefinition "a" [⟨2, .paragraph [⟨3, .text "first"⟩, brought] []⟩]⟩,
      ⟨7, .footnoteDefinition "a"
        [⟨8, .paragraph [both, ⟨9, .footnoteReference none (some [⟨10, .text "lost"⟩])⟩] []⟩,
          ⟨11, .paragraph [⟨12, .footnoteReference (some "ghost") none⟩] []⟩]⟩]⟩

theorem disputed_coherent : disputed.Coherent := by
  simp [Node.Coherent, disputed, Node.preorder_eq, Node.parts, Node.body, Body.parts,
    Body.children, Body.attached, Node.key]

theorem disputed_numbered : disputed.kind = .document ∧ disputed.Coherent ∧
    NumberedInForce disputed :=
  ⟨rfl, disputed_coherent, numbered_iff_inForce disputed rfl disputed_coherent⟩

example : (ofRoot disputed).keys = [.label "a", .anonymous 4, .anonymous 5] := by cbv

end Index

end Footnote

end Manuscript
