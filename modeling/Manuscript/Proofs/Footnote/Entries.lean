import Manuscript.Proofs.Footnote.Numbering

/-!
# Entries

What an index holds besides the numbers is determined by them and by the document.

* `Index.Faithful`: the entries and the warnings of an index are those that its numbers call for;
* `Faithful.step`: every step of the numbering keeps an index faithful, so that of a document is;
* `mem_entries_iff`: an entry belongs to a numbered footnote that has a content.
-/

namespace Manuscript.Footnote

open Relation

/-- The entry of the footnote at a place in the order of numbers, if it is defined. -/
def entryAt (root : Node) (place : Key × Nat) : Option Entry :=
  (contentOf root place.1).map fun nodes => ⟨place.2 + 1, place.1.label?, nodes⟩

namespace Index

variable {root : Node} {index : Index}

/-- An index that numbers no footnote twice, has an entry for each footnote that is defined, and
has warned once of each that is not. -/
structure Faithful (root : Node) (index : Index) : Prop where
  distinct : index.keys.Nodup
  entries_eq : index.entries = index.keys.zipIdx.filterMap (entryAt root)
  label_of_undefined : ∀ key ∈ index.keys, contentOf root key = none → ∃ l, key = .label l
  warned_iff : ∀ l, .undefinedFootnote l ∈ index.log ↔
    .label l ∈ index.keys ∧ contentOf root (.label l) = none
  warned_once : ∀ l, index.log.count (.undefinedFootnote l) ≤ 1

theorem Faithful.empty : Faithful root Index.empty := by
  constructor <;> simp [Index.empty]

theorem Faithful.report (h : Faithful root index) (label : String) :
    Faithful root { index with log := index.log ++ [.unreferencedFootnote label] } where
  distinct := h.distinct
  entries_eq := h.entries_eq
  label_of_undefined := h.label_of_undefined
  warned_iff l := by simpa using h.warned_iff l
  warned_once l := by simpa [List.count_append] using h.warned_once l

/-- A footnote with a content gets its entry. -/
theorem Faithful.add_defined (h : Faithful root index) {call : Call} {nodes : List Node}
    (belongs : call.Belongs root) (new : call.key ∉ index.keys)
    (defined : call.content = some nodes) : Faithful root (index.add call) := by
  have content : contentOf root call.key = some nodes := belongs.content_eq.symm.trans defined
  have log : (index.add call).log = index.log := by simp [add, defined]
  refine ⟨?_, ?_, ?_, fun l => ?_, fun l => ?_⟩
  · simpa using List.Nodup.concat new h.distinct
  · simp [add, defined, h.entries_eq, List.zipIdx_append, entryAt, content, belongs.label_eq]
  · intro key hkey undefined
    rw [add_keys] at hkey
    rcases List.mem_append.1 hkey with hkey | hkey
    · exact h.label_of_undefined key hkey undefined
    · rw [List.mem_singleton.1 hkey, content] at undefined
      cases undefined
  · rw [log, h.warned_iff, add_keys, List.mem_append, List.mem_singleton]
    constructor
    · rintro ⟨numbered, undefined⟩
      exact ⟨.inl numbered, undefined⟩
    · rintro ⟨numbered | same, undefined⟩
      · exact ⟨numbered, undefined⟩
      · rw [same, content] at undefined
        cases undefined
  · rw [log]
    exact h.warned_once l

/-- A label without a content gets a warning, and it is the first one. -/
theorem Faithful.add_undefined (h : Faithful root index) {call : Call}
    (belongs : call.Belongs root) (new : call.key ∉ index.keys)
    (undefined : call.content = none) : Faithful root (index.add call) := by
  obtain ⟨label, key⟩ := belongs.label_of_undefined undefined
  have content : contentOf root (.label label) = none := by
    rw [← key, ← belongs.content_eq, undefined]
  have log : (index.add call).log = index.log ++ [.undefinedFootnote label] := by
    simp [add, undefined, belongs.label_eq, key, Key.label?]
  refine ⟨?_, ?_, ?_, fun l => ?_, fun l => ?_⟩
  · simpa using List.Nodup.concat new h.distinct
  · simp [add, undefined, h.entries_eq, List.zipIdx_append, entryAt, key, content]
  · intro other hother nothing
    rw [add_keys, key] at hother
    rcases List.mem_append.1 hother with hother | hother
    · exact h.label_of_undefined other hother nothing
    · exact ⟨label, List.mem_singleton.1 hother⟩
  · rw [log, add_keys, key]
    simp only [List.mem_append, List.mem_singleton, h.warned_iff, Event.undefinedFootnote.injEq,
      Key.label.injEq]
    constructor
    · rintro (⟨numbered, nothing⟩ | rfl)
      · exact ⟨.inl numbered, nothing⟩
      · exact ⟨.inr rfl, content⟩
    · rintro ⟨numbered | rfl, nothing⟩
      · exact .inl ⟨numbered, nothing⟩
      · exact .inr rfl
  · rw [log, List.count_append]
    by_cases same : label = l
    · subst same
      have unwarned : Event.undefinedFootnote label ∉ index.log := fun warned =>
        new (key ▸ ((h.warned_iff label).1 warned).1)
      simp [List.count_eq_zero_of_not_mem unwarned]
    · simpa [same] using h.warned_once l

theorem Faithful.step {after : Index} (h : Faithful root index) (step : Step root index after) :
    Faithful root after := by
  cases step with
  | report label => exact h.report label
  | add call belongs new =>
    cases content : call.content with
    | some nodes => exact h.add_defined belongs new content
    | none => exact h.add_undefined belongs new content

theorem Faithful.run {after : Index} (h : Faithful root index)
    (run : ReflTransGen (Step root) index after) : Faithful root after := by
  induction run with
  | refl => exact h
  | tail _ step ih => exact ih.step step

theorem ofRoot_faithful (coherent : root.Coherent) : Faithful root (ofRoot root) :=
  Faithful.empty.run (ofRoot_search coherent).run

theorem Faithful.mem_entries_iff (h : Faithful root index) {entry : Entry} :
    entry ∈ index.entries ↔ ∃ key, index.number? key = some entry.number ∧
      entry.label = key.label? ∧ contentOf root key = some entry.content := by
  rw [h.entries_eq, List.mem_filterMap]
  constructor
  · rintro ⟨⟨key, i⟩, place, found⟩
    obtain ⟨nodes, content, rfl⟩ := Option.map_eq_some_iff.1 found
    refine ⟨key, (number?_eq_some_iff h.distinct).2 ⟨i, rfl, ?_⟩, rfl, content⟩
    exact List.mk_mem_zipIdx_iff_getElem?.1 place
  · rintro ⟨key, number, label, content⟩
    obtain ⟨i, number, place⟩ := (number?_eq_some_iff h.distinct).1 number
    refine ⟨(key, i), List.mk_mem_zipIdx_iff_getElem?.2 place, ?_⟩
    rw [entryAt, content, ← number, ← label]
    rfl

theorem Faithful.increasing (h : Faithful root index) :
    index.entries.Pairwise (·.number < ·.number) := by
  have places : index.keys.zipIdx.Pairwise (·.2 < ·.2) := by
    rw [← List.pairwise_map (f := Prod.snd) (R := (· < ·)), List.zipIdx_map_snd]
    exact List.pairwise_lt_range'
  rw [h.entries_eq]
  refine places.filterMap _ fun place later lt entry found other found' => ?_
  obtain ⟨_, _, rfl⟩ := Option.map_eq_some_iff.1 found
  obtain ⟨_, _, rfl⟩ := Option.map_eq_some_iff.1 found'
  exact Nat.succ_lt_succ lt

end Index

end Manuscript.Footnote
