import Manuscript.Footnote.Section
import Manuscript.Leanpub.Export
import Manuscript.Proofs.Footnote.Entries
import Manuscript.Proofs.Outcome

/-!
# Accounting for footnotes

What the index of a document says of its footnotes as a whole:

* `ofRoot_consistent`: numbers, entries and what is printed of either agree;
* `ofRoot_complete`: no definition is lost, invented or entered twice.
-/

namespace Manuscript.Footnote.Index

variable {root : Node} {index : Index}

theorem Faithful.entry_unique (h : Faithful root index) {entry other : Entry}
    (he : entry ∈ index.entries) (ho : other ∈ index.entries) (same : entry.number = other.number) :
    entry = other := by
  obtain ⟨key, number, label, content⟩ := h.mem_entries_iff.1 he
  obtain ⟨key', number', label', content'⟩ := h.mem_entries_iff.1 ho
  obtain rfl := key_unique h.distinct number (same ▸ number')
  have labels : entry.label = other.label := label.trans label'.symm
  have contents : entry.content = other.content := Option.some.inj (content.symm.trans content')
  cases entry
  cases other
  exact (Entry.mk.injEq ..).mpr ⟨same, labels, contents⟩

theorem filter_eq_singleton {α : Type} {p : α → Bool} {xs : List α} {a : α} (distinct : xs.Nodup)
    (mem : a ∈ xs) (only : ∀ b ∈ xs, p b = true ↔ b = a) : xs.filter p = [a] := by
  classical
  have same : ∀ b ∈ xs, p b = (b == a) := by
    intro b hb
    rw [Bool.eq_iff_iff, beq_iff_eq]
    exact only b hb
  rw [List.filter_congr same, List.filter_beq, List.count_eq_one_of_mem distinct mem]
  rfl

theorem Faithful.nodup_entries (h : Faithful root index) : index.entries.Nodup := by
  refine h.increasing.imp ?_
  rintro entry _ lt rfl
  exact Nat.lt_irrefl _ lt

/-- A property that tells the entry of a footnote from all others is one of that entry alone. -/
theorem Faithful.filter_entries (h : Faithful root index) {key : Key} {number : Nat}
    {nodes : List Node} (numbered : index.number? key = some number)
    (content : contentOf root key = some nodes) {p : Entry → Bool}
    (only : ∀ entry ∈ index.entries, p entry = true ↔ entry.number = number) :
    index.entries.filter p = [⟨number, key.label?, nodes⟩] := by
  have mem : ⟨number, key.label?, nodes⟩ ∈ index.entries :=
    h.mem_entries_iff.2 ⟨key, numbered, rfl, content⟩
  refine filter_eq_singleton h.nodup_entries mem fun entry he => (only entry he).trans ?_
  exact ⟨fun same => h.entry_unique he mem same, fun same => same ▸ rfl⟩

theorem Faithful.label_eq (h : Faithful root index) {entry : Entry} (he : entry ∈ index.entries)
    {key : Key} (numbered : index.number? key = some entry.number) : entry.label = key.label? := by
  obtain ⟨other, number, label, -⟩ := h.mem_entries_iff.1 he
  rw [label, key_unique h.distinct number numbered]

theorem Faithful.number?_of_label (h : Faithful root index) {entry : Entry}
    (he : entry ∈ index.entries) {label : String} (hl : entry.label = some label) :
    index.number? (.label label) = some entry.number ∧ Defined root label := by
  obtain ⟨key, number, same, content⟩ := h.mem_entries_iff.1 he
  cases key with
  | anonymous reference => rw [hl] at same; cases same
  | label l =>
    rw [hl] at same
    cases same
    refine ⟨number, Classical.byContradiction fun undefined => ?_⟩
    rw [contentOf_eq_none_iff.2 undefined] at content
    cases content

/-- An entry without a label belongs to an anonymous reference of the document. -/
theorem Faithful.exists_reference (h : Faithful root index) {entry : Entry}
    (he : entry ∈ index.entries) (hl : entry.label = none) :
    ∃ r ∈ root.preorder, r.footnoteKey? = some (.anonymous r.key) ∧
      index.number? (.anonymous r.key) = some entry.number := by
  obtain ⟨key, number, same, content⟩ := h.mem_entries_iff.1 he
  cases key with
  | label l => rw [hl] at same; cases same
  | anonymous reference =>
    obtain ⟨r, found, -⟩ := Option.map_eq_some_iff.1 content
    have calls := List.find?_some found
    have key := beq_iff_eq.1 calls
    obtain rfl := key_eq_of_footnoteKey? key
    exact ⟨r, List.mem_of_find?_eq_some found, key, number⟩

/-- Wherever a document is written as a book, one of its nodes becomes the given text. -/
def PrintedAs (root n : Node) (text : String) : Prop :=
  ∀ options environment x,
    (Leanpub.Export.ofDocument options .leanpub environment root).result = .ok x →
      ∀ renderCaption fragments, x.convert renderCaption n fragments = pure text

/-- The text of the footnote section has one definition for each entry, under its marker. -/
def DefinesEntries (index : Index) (text : String) : Prop :=
  ∃ definitions, text = "\n\n".intercalate definitions ∧
    List.Forall₂
      (fun entry definition => ∃ body, definition = "[^" ++ entry.marker ++ "]: " ++ body)
      index.entries definitions

/-- The numbers, the entries and what is printed for the footnotes of a document agree. -/
structure Consistent (root : Node) : Prop where
  /-- The numbers are those from one to the number of footnotes. -/
  numbers : ∀ number, (∃ key, (ofRoot root).number? key = some number) ↔
    1 ≤ number ∧ number ≤ (ofRoot root).keys.length
  one_footnote : ∀ key other number, (ofRoot root).number? key = some number →
    (ofRoot root).number? other = some number → key = other
  increasing : (ofRoot root).entries.Pairwise (·.number < ·.number)
  labelled : ∀ entry ∈ (ofRoot root).entries, ∀ label, given? entry.label = some label →
    (Context.of root).numberFor (.label label) = .ok entry.number
  /-- An anonymous entry has the number of one reference and of no other. -/
  anonymous : ∀ entry ∈ (ofRoot root).entries, entry.label = none →
    ∃ r ∈ root.preorder, r.footnoteKey? = some (.anonymous r.key) ∧
      (Context.of root).numberFor (.anonymous r.key) = .ok entry.number ∧
      ∀ s ∈ root.preorder, ∀ key, s.footnoteKey? = some key →
        (Context.of root).numberFor key = .ok entry.number → s = r
  /-- A reference goes by the marker of its entry and is printed with it. -/
  printed : ∀ r ∈ root.preorder, ∀ key, r.footnoteKey? = some key →
    ∀ entry ∈ (ofRoot root).entries, (Context.of root).numberFor key = .ok entry.number →
      (Context.of root).labelFor key = .ok entry.marker ∧
        PrintedAs root r ("[^" ++ entry.marker ++ "]")
  /-- So is the definition of every entry, whatever its content is rendered to. -/
  defined : ∀ (ε : Type) (render : Node → Outcome ε String) (text : String),
    ((ofRoot root).renderDefinitions render).result = .ok text → (ofRoot root).DefinesEntries text

theorem numberFor_eq_ok_iff {key : Key} {number : Nat} :
    (Context.of root).numberFor key = .ok number ↔ (ofRoot root).number? key = some number := by
  unfold Context.numberFor Context.of
  cases (ofRoot root).number? key <;> simp

theorem Faithful.labelFor_eq (h : Faithful root (ofRoot root)) {r : Node} {key : Key}
    (calls : r.footnoteKey? = some key) {entry : Entry} (he : entry ∈ (ofRoot root).entries)
    (numbered : (ofRoot root).number? key = some entry.number) :
    (Context.of root).labelFor key = .ok entry.marker := by
  have label := h.label_eq he numbered
  unfold Entry.marker
  rw [label]
  cases key with
  | label l =>
    rw [Key.label?, given?_of_footnoteKey? calls]
    rfl
  | anonymous reference =>
    rw [Context.labelFor, numberFor_eq_ok_iff.2 numbered]
    rfl

theorem printedAs_of_labelFor {r : Node} {key : Key} (calls : r.footnoteKey? = some key)
    {label : String} (printed : (Context.of root).labelFor key = .ok label) :
    PrintedAs root r ("[^" ++ label ++ "]") := by
  intro options environment x exported renderCaption fragments
  rw [Leanpub.Export.ofDocument_result] at exported
  cases exported
  unfold Node.footnoteKey? at calls
  split at calls
  next label' _ hb =>
    cases calls
    have rule : Leanpub.RuleTable.leanpub.find? r.kind = some .footnoteReference := by
      simp [Node.kind, hb, Body.kind, Leanpub.RuleTable.find?, Leanpub.RuleTable.leanpub]
    have identified : r.identifier = .ok label' := by rw [Node.identifier, hb]
    rw [Leanpub.Export.convert, Leanpub.Export.ruleFor, rule, pure_bind, Leanpub.Export.apply,
      identified]
    exact congrArg (fun text => Outcome.ofExcept (Except.map Markdown.footnoteReference text))
      printed
  next => cases calls

/-- The contents of the entries are rendered to the bodies, one to each. -/
def Bodies {ε : Type} (render : Node → Outcome ε String) (index : Index) : List String → Prop :=
  List.Forall₂ (fun entry body => (renderNodes render entry.content).result = .ok body)
    index.entries

/-- There are definitions exactly if there is a body for each entry, and they are made of these. -/
theorem renderDefinitions_result_eq_ok_iff {ε : Type} {render : Node → Outcome ε String}
    {text : String} :
    (index.renderDefinitions render).result = .ok text ↔ ∃ bodies, index.Bodies render bodies ∧
      text = "\n\n".intercalate (List.zipWith
        (fun entry => Markdown.footnoteDefinition entry.marker) index.entries bodies) := by
  unfold Index.renderDefinitions
  rw [Outcome.bind_result_eq_ok_iff]
  constructor
  · rintro ⟨definitions, written, joined⟩
    obtain ⟨bodies, each, rfl⟩ := Outcome.mapM_map_result_eq_ok_iff.1 written
    cases joined
    exact ⟨bodies, each, rfl⟩
  · rintro ⟨bodies, each, rfl⟩
    exact ⟨_, Outcome.mapM_map_result_eq_ok_iff.2 ⟨bodies, each, rfl⟩, rfl⟩

/-- Where the definitions of all entries are rendered, each stands under its marker. -/
theorem definesEntries_of_render {ε : Type} {render : Node → Outcome ε String} {text : String}
    (h : (index.renderDefinitions render).result = .ok text) : index.DefinesEntries text := by
  obtain ⟨bodies, each, rfl⟩ := renderDefinitions_result_eq_ok_iff.1 h
  refine ⟨_, rfl, ?_⟩
  clear h
  unfold Bodies at each
  generalize index.entries = entries at each
  induction each with
  | nil => exact .nil
  | cons _ _ ih =>
    rw [List.zipWith_cons_cons]
    exact .cons ⟨_, rfl⟩ ih

/-- **The index of a document is consistent.** -/
theorem ofRoot_consistent (root : Node) (coherent : root.Coherent) : Consistent root := by
  have h := ofRoot_faithful coherent
  constructor
  case numbers =>
    intro number
    constructor
    · rintro ⟨key, numbered⟩
      obtain ⟨i, rfl, here⟩ := (number?_eq_some_iff h.distinct).1 numbered
      have := (List.getElem?_eq_some_iff.1 here).1
      omega
    · rintro ⟨positive, bound⟩
      have place : number - 1 < (ofRoot root).keys.length := by omega
      refine ⟨(ofRoot root).keys[number - 1], (number?_eq_some_iff h.distinct).2 ?_⟩
      exact ⟨number - 1, by omega, List.getElem?_eq_getElem place⟩
  case one_footnote => exact fun key other number => key_unique h.distinct
  case increasing => exact h.increasing
  case labelled =>
    intro entry he label given
    have hl : entry.label = some label := (Option.filter_eq_some_iff.1 given).1
    exact numberFor_eq_ok_iff.2 (h.number?_of_label he hl).1
  case anonymous =>
    intro entry he hl
    obtain ⟨r, hr, calls, numbered⟩ := h.exists_reference he hl
    refine ⟨r, hr, calls, numberFor_eq_ok_iff.2 numbered, fun s hs key calls' numbered' => ?_⟩
    obtain rfl := key_unique h.distinct (numberFor_eq_ok_iff.1 numbered') numbered
    exact coherent s hs r hr (key_eq_of_footnoteKey? calls')
  case printed =>
    intro r hr key calls entry he numbered
    have label := h.labelFor_eq calls he (numberFor_eq_ok_iff.1 numbered)
    exact ⟨label, printedAs_of_labelFor calls label⟩
  case defined => exact fun ε render text => definesEntries_of_render

theorem entwined_consistent : entwined.Coherent ∧ Consistent entwined :=
  ⟨entwined_coherent, ofRoot_consistent entwined entwined_coherent⟩

/-- The entries and warnings of a document account for all its definitions and references. -/
structure Complete (root : Node) : Prop where
  /-- A label that some node defines has one entry, with the content that was first given to it. -/
  defined : ∀ n ∈ root.preorder, ∀ label content, n.definition? = some (label, content) →
    ∃ number first, (ofRoot root).number? (.label label) = some number ∧
      (root.preorder.filterMap Node.definition?).lookup label = some first ∧
      (ofRoot root).entries.filter (·.label = some label) = [⟨number, some label, first⟩]
  /-- No other label has an entry. -/
  invented : ∀ entry ∈ (ofRoot root).entries, ∀ label, entry.label = some label →
    ∃ n ∈ root.preorder, ∃ content, n.definition? = some (label, content)
  /-- A numbered anonymous reference has one entry, with the definition that it brings. -/
  anonymous : ∀ r ∈ root.preorder, r.footnoteKey? = some (.anonymous r.key) →
    ∀ number, (ofRoot root).number? (.anonymous r.key) = some number →
      (ofRoot root).entries.filter (·.number = number) = [⟨number, none, r.attached⟩]
  /-- All entries without a label are of that kind. -/
  unlabelled : ∀ entry ∈ (ofRoot root).entries, entry.label = none →
    ∃ r ∈ root.preorder, r.footnoteKey? = some (.anonymous r.key) ∧
      (ofRoot root).number? (.anonymous r.key) = some entry.number
  /-- The numbers without an entry are those of the labels that no node defines. -/
  missing : ∀ key number, (ofRoot root).number? key = some number →
    ((∀ entry ∈ (ofRoot root).entries, entry.number ≠ number) ↔
      ∃ label, key = .label label ∧
        ¬ ∃ n ∈ root.preorder, ∃ content, n.definition? = some (label, content))
  /-- Of each of these there is one warning, and of nothing else. -/
  warned : ∀ label, (ofRoot root).log.count (.undefinedFootnote label) ≤ 1 ∧
    (.undefinedFootnote label ∈ (ofRoot root).log ↔
      (∃ number, (ofRoot root).number? (.label label) = some number) ∧
        ¬ ∃ n ∈ root.preorder, ∃ content, n.definition? = some (label, content))

theorem lookup_preorder_eq (label : String) :
    (root.preorder.filterMap Node.definition?).lookup label = contentOf root (.label label) := by
  rw [contentOf, Node.definitions, Node.places_eq_preorder]

/-- **No definition is lost, invented or entered twice.** -/
theorem ofRoot_complete (root : Node) (coherent : root.Coherent) : Complete root := by
  have h := ofRoot_faithful coherent
  constructor
  case defined =>
    intro n hn label nodes defines
    have defined : Defined root label := ⟨n, hn, nodes, defines⟩
    obtain ⟨number, numbered⟩ := number?_of_defined coherent defined
    obtain ⟨first, content⟩ := Option.ne_none_iff_exists'.1 fun none =>
      contentOf_eq_none_iff.1 none defined
    refine ⟨number, first, numbered, (lookup_preorder_eq label).trans content, ?_⟩
    refine h.filter_entries numbered content fun entry he => ?_
    rw [decide_eq_true_iff]
    constructor
    · intro hl
      exact Option.some.inj ((h.number?_of_label he hl).1.symm.trans numbered)
    · rintro rfl
      exact h.label_eq he numbered
  case invented => exact fun entry he label hl => (h.number?_of_label he hl).2
  case anonymous =>
    intro r hr calls number numbered
    refine h.filter_entries numbered (contentOf_anonymous coherent hr calls) fun entry he => ?_
    exact decide_eq_true_iff
  case unlabelled => exact fun entry he hl => h.exists_reference he hl
  case missing =>
    intro key number numbered
    constructor
    · intro missing
      have nothing : contentOf root key = none := by
        cases content : contentOf root key with
        | none => rfl
        | some nodes =>
          have mem : ⟨number, key.label?, nodes⟩ ∈ (ofRoot root).entries :=
            h.mem_entries_iff.2 ⟨key, numbered, rfl, content⟩
          exact absurd rfl (missing _ mem)
      obtain ⟨label, rfl⟩ :=
        h.label_of_undefined key (number?_isSome_iff.1 ⟨number, numbered⟩) nothing
      exact ⟨label, rfl, contentOf_eq_none_iff.1 nothing⟩
    · rintro ⟨label, rfl, undefined⟩ entry he rfl
      have hl := h.label_eq he numbered
      exact undefined (h.number?_of_label he hl).2
  case warned =>
    intro label
    refine ⟨h.warned_once label, ?_⟩
    rw [h.warned_iff, number?_isSome_iff, contentOf_eq_none_iff]
    rfl

theorem entwined_complete : entwined.Coherent ∧ Complete entwined :=
  ⟨entwined_coherent, ofRoot_complete entwined entwined_coherent⟩

end Manuscript.Footnote.Index
