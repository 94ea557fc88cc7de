import Mathlib
import Manuscript.Leanpub.Render
import Manuscript.Proofs.Footnote.Accounting

/-!
# Markers

A footnote is printed by its label, or by its number if it has none. Labels and numbers are apart in
the index but not on the page:

* `ofRoot_unambiguous`: a marker tells a definition from all others, unless the label of one spells
  the number of another;
* `spelled_number_clashes`: where that is so, two definitions are printed under one marker.
-/

namespace Manuscript.Footnote.Index

variable {root : Node} {index : Index}

/-- The definitions that a printed marker names. -/
def named (index : Index) (marker : String) : List Entry :=
  index.entries.filter (·.marker = marker)

/-- An entry goes by its number, which is also how the label of another entry is spelled. -/
def Clash (entry other : Entry) : Prop :=
  given? entry.label = none ∧ given? other.label = some (toString entry.number)

/-- The marker of an entry tells it from every entry that it does not clash with. -/
theorem Faithful.eq_or_clash (h : Faithful root index) {entry other : Entry}
    (he : entry ∈ index.entries) (ho : other ∈ index.entries) (same : entry.marker = other.marker) :
    entry = other ∨ Clash entry other ∨ Clash other entry := by
  unfold Entry.marker at same
  cases label : given? entry.label with
  | none =>
    cases label' : given? other.label with
    | none =>
      rw [label, label'] at same
      exact .inl (h.entry_unique he ho (Nat.repr_injective same))
    | some l' =>
      rw [label, label'] at same
      exact .inr (.inl ⟨label, label'.trans (congrArg some same.symm)⟩)
  | some l =>
    cases label' : given? other.label with
    | none =>
      rw [label, label'] at same
      exact .inr (.inr ⟨label', label.trans (congrArg some same)⟩)
    | some l' =>
      rw [label, label'] at same
      obtain rfl : l = l' := same
      have number := h.number?_of_label he (Option.filter_eq_some_iff.1 label).1
      have number' := h.number?_of_label ho (Option.filter_eq_some_iff.1 label').1
      exact .inl (h.entry_unique he ho (Option.some.inj (number.1.symm.trans number'.1)))

theorem Faithful.named_marker (h : Faithful root index) {entry : Entry} (he : entry ∈ index.entries)
    (alone : ∀ other ∈ index.entries, ¬ Clash entry other ∧ ¬ Clash other entry) :
    index.named entry.marker = [entry] := by
  refine filter_eq_singleton h.nodup_entries he fun other ho => ?_
  rw [decide_eq_true_iff]
  constructor
  · intro same
    rcases h.eq_or_clash ho he same with same | clash | clash
    · exact same
    · exact absurd clash (alone other ho).2
    · exact absurd clash (alone other ho).1
  · rintro rfl
    rfl

/-- What the markers that are printed for a document tell apart. -/
structure Unambiguous (root : Node) : Prop where
  distinct : ∀ entry ∈ (ofRoot root).entries, ∀ other ∈ (ofRoot root).entries, entry ≠ other →
    entry.marker = other.marker → Clash entry other ∨ Clash other entry
  /-- A reference names the definition of its footnote and no other, if that clashes with none. -/
  defined : ∀ r ∈ root.preorder, ∀ key, r.footnoteKey? = some key →
    ∀ entry ∈ (ofRoot root).entries, (ofRoot root).number? key = some entry.number →
      (∀ other ∈ (ofRoot root).entries, ¬ Clash entry other ∧ ¬ Clash other entry) →
      PrintedAs root r ("[^" ++ entry.marker ++ "]") ∧ (ofRoot root).named entry.marker = [entry]
  /-- A reference to a label that no node defines prints it, and no definition has it. -/
  undefined : ∀ r ∈ root.preorder, ∀ label, r.footnoteKey? = some (.label label) →
    ¬ Defined root label → PrintedAs root r ("[^" ++ label ++ "]") ∧
      ∀ entry ∈ (ofRoot root).entries, entry.label ≠ some label
  /-- The definitions that are printed are those of the entries, each under its marker. -/
  printed : ∀ (ε : Type) (render : Node → Outcome ε String) (text : String),
    ((ofRoot root).renderDefinitions render).result = .ok text → (ofRoot root).DefinesEntries text

/-- **Markers are unambiguous, unless a label spells a number.** -/
theorem ofRoot_unambiguous (root : Node) (coherent : root.Coherent) : Unambiguous root := by
  have h := ofRoot_faithful coherent
  constructor
  case distinct =>
    intro entry he other ho ne same
    exact (h.eq_or_clash he ho same).resolve_left ne
  case defined =>
    intro r hr key calls entry he numbered alone
    exact ⟨printedAs_of_labelFor calls (h.labelFor_eq calls he numbered), h.named_marker he alone⟩
  case undefined =>
    intro r hr label calls undefined
    refine ⟨printedAs_of_labelFor calls rfl, fun entry he hl => ?_⟩
    exact undefined (h.number?_of_label he hl).2
  case printed => exact fun ε render text => definesEntries_of_render

theorem entwined_unambiguous : entwined.Coherent ∧ Unambiguous entwined :=
  ⟨entwined_coherent, ofRoot_unambiguous entwined entwined_coherent⟩

/-- An anonymous footnote, then one whose label spells the number of the first, then a label that
nothing defines. -/
def clashing : Node :=
  ⟨0, .document
    [⟨1, .paragraph
      [⟨2, .footnoteReference none (some [⟨3, .text "first"⟩])⟩,
        ⟨4, .footnoteReference (some "1") (some [⟨5, .text "second"⟩])⟩,
        ⟨6, .footnoteReference (some "ghost") none⟩] []⟩]⟩

/-- Two definitions are printed under one marker, and one reference has no definition at all. -/
theorem spelled_number_clashes :
    (∃ entry ∈ (ofRoot clashing).entries, ∃ other ∈ (ofRoot clashing).entries,
      entry ≠ other ∧ entry.marker = other.marker) ∧
    ((ofRoot clashing).named "1").length = 2 ∧ ((ofRoot clashing).named "ghost").length = 0 ∧
    (Leanpub.render .standard .leanpub ⟨"", ""⟩ clashing).result =
      .ok "[^1][^1][^ghost]\n\n[^1]: first\n\n[^1]: second" := by
  have entries : (ofRoot clashing).entries =
      [⟨1, none, [⟨3, .text "first"⟩]⟩, ⟨2, some "1", [⟨5, .text "second"⟩]⟩] := by cbv
  refine ⟨⟨⟨1, none, [⟨3, .text "first"⟩]⟩, ?_, ⟨2, some "1", [⟨5, .text "second"⟩]⟩, ?_, ?_, ?_⟩,
    ?_, ?_, ?_⟩
  · simp [entries]
  · simp [entries]
  · simp
  · cbv
  · cbv
  · cbv
  · cbv

end Manuscript.Footnote.Index
