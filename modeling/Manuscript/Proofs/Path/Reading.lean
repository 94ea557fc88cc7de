import Mathlib.Data.List.Basic
import Manuscript.Path.Basic

/-!
# Reading paths back

A path is written as its anchor and its names between slashes, and that is read as the same path
again, since no name is empty, a single dot, or holds a slash:

* `pieces_eq_splitOn`: the pieces of a text are what it splits into at its slashes;
* `IsName`, `WellFormed`: the names that are read, and the paths made of them;
* `wellFormed_ofString`: nothing else is read;
* `ofString_anchored`: what is read of an anchor with names behind it;
* `ofString_toString`: every well-formed path comes back.
-/

namespace Manuscript.Path

/-! ## Pieces -/

theorem pieces_eq_splitOn (cs : List Char) : pieces cs = cs.splitOn '/' := by
  induction cs with
  | nil => rfl
  | cons c cs ih =>
    rw [List.splitOn_cons_eq_if_modifyHead, pieces, ih]
    by_cases h : c = '/'
    · simp [h]
    · simp only [h, if_false, beq_iff_eq]
      cases split : cs.splitOn '/' with
      | nil => exact absurd split (List.splitOn_ne_nil _ _)
      | cons piece others => rfl

theorem slash_not_mem_of_mem_pieces {cs piece : List Char} (h : piece ∈ pieces cs) :
    '/' ∉ piece := by
  induction cs generalizing piece with
  | nil =>
    obtain rfl := List.mem_singleton.1 h
    exact List.not_mem_nil
  | cons c cs ih =>
    unfold pieces at h
    split at h
    next =>
      rcases List.mem_cons.1 h with rfl | later
      · exact List.not_mem_nil
      · exact ih later
    next other =>
      split at h
      next =>
        obtain rfl := List.mem_singleton.1 h
        simpa using Ne.symm other
      next first others split =>
        rw [split] at ih
        rcases List.mem_cons.1 h with rfl | later
        · simpa [Ne.symm other] using ih (List.mem_cons_self ..)
        · exact ih (List.mem_cons_of_mem _ later)

/-! ## Names -/

/-- What is read as a name: no empty text, no single dot and nothing with a slash. -/
structure IsName (name : String) : Prop where
  ne_empty : name ≠ ""
  ne_dot : name ≠ "."
  unbroken : '/' ∉ name.toList

/-- The path consists of names. -/
def WellFormed (path : Path) : Prop := ∀ name ∈ path.names, IsName name

/-- The names between the slashes of a text. -/
def namesOf (cs : List Char) : List String :=
  ((pieces cs).map String.ofList).filter fun name => name ≠ "" && name ≠ "."

theorem ofString_eq (s : String) : ofString s = ⟨anchorOf s.toList, namesOf s.toList⟩ := rfl

theorem wellFormed_ofString (s : String) : (ofString s).WellFormed := by
  intro name hname
  obtain ⟨among, kept⟩ := List.mem_filter.1 hname
  obtain ⟨piece, hp, rfl⟩ := List.mem_map.1 among
  simp only [Bool.and_eq_true, decide_eq_true_iff] at kept
  refine ⟨kept.1, kept.2, ?_⟩
  rw [String.toList_ofList]
  exact slash_not_mem_of_mem_pieces hp

theorem namesOf_slash (cs : List Char) : namesOf ('/' :: cs) = namesOf cs := by
  simp [namesOf, pieces]

theorem namesOf_intercalate {names : List String} (h : ∀ name ∈ names, IsName name) :
    namesOf (['/'].intercalate (names.map String.toList)) = names := by
  cases names with
  | nil => rfl
  | cons first others =>
    have unbroken : ∀ piece ∈ (first :: others).map String.toList, '/' ∉ piece := by
      intro piece hp
      obtain ⟨name, hname, rfl⟩ := List.mem_map.1 hp
      exact (h name hname).unbroken
    have kept : ∀ name ∈ first :: others, (name ≠ "" && name ≠ ".") = true := by
      intro name hname
      simp [(h name hname).ne_empty, (h name hname).ne_dot]
    rw [namesOf, pieces_eq_splitOn, List.splitOn_intercalate '/' unbroken (by simp), List.map_map]
    simpa [Function.comp_def] using kept

theorem head?_intercalate_ne {names : List String} (h : ∀ name ∈ names, IsName name) :
    (['/'].intercalate (names.map String.toList)).head? ≠ some '/' := by
  cases names with
  | nil => simp
  | cons first others =>
    obtain ⟨visible, -, unbroken⟩ := h first (List.mem_cons_self ..)
    obtain ⟨c, rest, split⟩ : ∃ c rest, first.toList = c :: rest :=
      List.exists_cons_of_ne_nil (by simpa using visible)
    have head : (['/'].intercalate ((first :: others).map String.toList)).head? = some c := by
      cases others <;> simp [split, List.intercalate_cons_cons]
    rw [head]
    rintro ⟨⟩
    simp [split] at unbroken

/-! ## Anchors -/

/-- The characters of an anchor. -/
theorem toList_text (anchor : Anchor) :
    anchor.text.toList = match anchor with
      | .relative => []
      | .root => ['/']
      | .doubleRoot => ['/', '/'] := by
  cases anchor <;> decide

/-- The anchor of a text is read off again if no slash follows it. -/
theorem anchorOf_text (anchor : Anchor) {cs : List Char} (h : cs.head? ≠ some '/') :
    anchorOf (anchor.text.toList ++ cs) = anchor := by
  rw [toList_text]
  cases cs with
  | nil => cases anchor <;> rfl
  | cons c cs =>
    have other : c ≠ '/' := by simpa using h
    cases anchor <;> simp [anchorOf, other]

theorem namesOf_text (anchor : Anchor) (cs : List Char) :
    namesOf (anchor.text.toList ++ cs) = namesOf cs := by
  rw [toList_text]
  cases anchor <;> simp [namesOf_slash]

/-- What is read of an anchor and names behind it. -/
theorem ofString_anchored (anchor : Anchor) {names : List String}
    (h : ∀ name ∈ names, IsName name) :
    ofString (anchor.text ++ "/".intercalate names) = ⟨anchor, names⟩ := by
  have chars : (anchor.text ++ "/".intercalate names).toList =
      anchor.text.toList ++ ['/'].intercalate (names.map String.toList) := by
    rw [String.toList_append, String.toList_intercalate]
    rfl
  rw [ofString_eq, chars, anchorOf_text anchor (head?_intercalate_ne h), namesOf_text,
    namesOf_intercalate h]

/-- **A well-formed path is read back from its text.** -/
theorem ofString_toString {path : Path} (h : path.WellFormed) : ofString path.toString = path := by
  have back := ofString_anchored path.anchor h
  by_cases nothing : path.anchor.text ++ "/".intercalate path.names = ""
  · -- The text is a single dot, of which no more is read than of an empty one.
    rw [nothing] at back
    simp only [toString, nothing]
    exact back
  · simpa [toString, nothing] using back

/-- A path from the root on is written as its anchor and its names. -/
theorem toString_of_anchored {path : Path} (anchored : path.anchor ≠ .relative) :
    path.toString = path.anchor.text ++ "/".intercalate path.names := by
  have visible : path.anchor.text ≠ "" := by
    cases h : path.anchor with
    | relative => exact absurd h anchored
    | root | doubleRoot => decide
  simp [toString, visible]

end Manuscript.Path
