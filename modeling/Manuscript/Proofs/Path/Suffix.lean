import Manuscript.Book
import Manuscript.Proofs.Path.Reading

/-!
# The file beside a source

A book goes to the path of its source with another suffix. The suffix of a name begins at its last
dot, unless that is the first or the last character:

* `splitLastDot_eq_some_iff`: where the last dot is;
* `LastInnerDot`: the last of the dots that are neither first nor last, which is not the last dot of
  a name that ends in one;
* `stem_cases`: a name without its suffix;
* `Renamed`: a name that got another suffix;
* `output_beside_source`: so the book's path is named, and it is the path of its own book;
* `trailing_dot_ends_suffix`: a dot further inside does not count when the name ends in one.
-/

namespace Manuscript

namespace Path

/-! ## The last dot -/

theorem splitLastDot_append {before after : List Char} (last : '.' ∉ after) :
    splitLastDot (before ++ '.' :: after) = some (before, after) := by
  have unbroken : ∀ c ∈ after.reverse, (decide (c ≠ '.')) = true := by
    intro c hc
    rw [decide_eq_true_iff]
    rintro rfl
    exact last (List.mem_reverse.1 hc)
  have run : (before ++ '.' :: after).reverse.takeWhile (· ≠ '.') = after.reverse := by
    rw [List.reverse_append, List.reverse_cons, List.append_assoc,
      List.takeWhile_append_of_pos unbroken]
    simp
  have length : before.length + (after.length + 1) - after.length - 1 = before.length := by omega
  rw [splitLastDot, run]
  simp [length]

theorem splitLastDot_eq_some_iff {cs before after : List Char} :
    splitLastDot cs = some (before, after) ↔ cs = before ++ '.' :: after ∧ '.' ∉ after := by
  constructor
  · intro h
    by_cases dotted : '.' ∈ cs
    · obtain ⟨after', before', split, last⟩ :=
        List.eq_append_cons_of_mem (List.mem_reverse.2 dotted)
      have cut : cs = before'.reverse ++ '.' :: after'.reverse := by
        rw [← List.reverse_reverse cs, split]
        simp
      have last' : '.' ∉ after'.reverse := by simpa using last
      rw [cut, splitLastDot_append last'] at h
      cases h
      exact ⟨cut, last'⟩
    · simp [splitLastDot, dotted] at h
  · rintro ⟨rfl, last⟩
    exact splitLastDot_append last

section
variable {name before after : List Char}

/-- The last of the dots of a name that are neither its first nor its last character, by what stands
before it and after it. -/
structure LastInnerDot (name before after : List Char) : Prop where
  split : name = before ++ '.' :: after
  notFirst : before ≠ []
  notLast : after ≠ []
  last : ∀ before' after', name = before' ++ '.' :: after' → before' ≠ [] → after' ≠ [] →
    before'.length ≤ before.length

/-- An inner dot that no other one follows is the last one. -/
theorem lastInnerDot_of_split (split : name = before ++ '.' :: after) (notFirst : before ≠ [])
    (notLast : after ≠ []) (last : '.' ∉ after) : LastInnerDot name before after := by
  refine ⟨split, notFirst, notLast, fun before' after' split' _ _ => ?_⟩
  rcases List.append_eq_append_iff.1 (split ▸ split') with ⟨between, longer, rest⟩ | ⟨_, rfl, -⟩
  · cases between with
    | nil => simp [longer]
    | cons c between =>
      obtain ⟨-, rfl⟩ := List.cons.inj rest
      simp at last
  · simp

/-- In a name that does not end in a dot no other one follows the last inner dot. -/
theorem LastInnerDot.not_mem_after (h : LastInnerDot name before after)
    (closed : name.getLast? ≠ some '.') : '.' ∉ after := by
  intro later
  obtain ⟨between, rest, split⟩ := List.append_of_mem later
  have whole : name = (before ++ '.' :: between) ++ '.' :: rest := by
    rw [h.split, split, List.append_assoc, List.cons_append]
  have notLast : rest ≠ [] := by
    rintro rfl
    rw [whole, List.getLast?_concat] at closed
    exact closed rfl
  have bound := h.last _ _ whole (by simp) notLast
  rw [List.length_append, List.length_cons] at bound
  omega

end

/-! ## Stems -/

/-- The stem of a name ends at its last dot if that is an inner one, and is the whole name
otherwise. -/
theorem stem_cases (name : String) :
    (∃ before after, name.toList = before ++ '.' :: after ∧ '.' ∉ after ∧ before ≠ [] ∧
      after ≠ [] ∧ stem name = String.ofList before) ∨
    stem name = name ∧ ∀ before after, name.toList = before ++ '.' :: after → '.' ∉ after →
      before = [] ∨ after = [] := by
  unfold stem
  cases h : splitLastDot name.toList with
  | none =>
    refine .inr ⟨rfl, fun before after split last => ?_⟩
    rw [split, splitLastDot_append last] at h
    cases h
  | some parts =>
    obtain ⟨before, after⟩ := parts
    obtain ⟨split, last⟩ := splitLastDot_eq_some_iff.1 h
    by_cases outer : before = [] ∨ after = []
    · refine .inr ⟨by simpa using fun b a => absurd outer (by simp [b, a]), ?_⟩
      intro before' after' split' last'
      rw [split', splitLastDot_append last'] at h
      cases h
      exact outer
    · obtain ⟨notFirst, notLast⟩ := not_or.1 outer
      exact .inl ⟨before, after, split, last, notFirst, notLast, by simp [notFirst, notLast]⟩

theorem stem_of_split {name : String} {before after : List Char}
    (split : name.toList = before ++ '.' :: after) (notFirst : before ≠ []) (notLast : after ≠ [])
    (last : '.' ∉ after) : stem name = String.ofList before := by
  rcases stem_cases name with ⟨before', after', split', last', -, -, stem⟩ | ⟨-, outer⟩
  · have same := (splitLastDot_append last).symm.trans (split ▸ split' ▸ splitLastDot_append last')
    cases same
    exact stem
  · rcases outer before after split last with none | none
    · exact absurd none notFirst
    · exact absurd none notLast

theorem stem_ne_empty {name : String} (visible : name ≠ "") : stem name ≠ "" := by
  rcases stem_cases name with ⟨before, _, _, _, notFirst, _, stem⟩ | ⟨stem, -⟩
  · rw [stem]
    intro none
    exact notFirst (by simpa using congrArg String.toList none)
  · rwa [stem]

theorem stem_subset (name : String) : (stem name).toList ⊆ name.toList := by
  rcases stem_cases name with ⟨before, after, split, _, _, _, stem⟩ | ⟨stem, -⟩
  · rw [stem, String.toList_ofList, split]
    exact List.subset_append_left ..
  · rw [stem]
    exact List.Subset.refl _

/-- A stem with a suffix behind it is the stem of the two. -/
theorem stem_stem_append {name suffix : String} {letters : List Char} (visible : name ≠ "")
    (dotted : suffix.toList = '.' :: letters) (lettered : letters ≠ []) (plain : '.' ∉ letters) :
    stem (stem name ++ suffix) = stem name := by
  have split : (stem name ++ suffix).toList = (stem name).toList ++ '.' :: letters := by
    rw [String.toList_append, dotted]
  have notFirst : (stem name).toList ≠ [] := by simpa using stem_ne_empty visible
  rw [stem_of_split split notFirst lettered plain, String.ofList_toList]

/-- A name that got another suffix in place of its own, or behind it if it has none. A name that
ends in a dot has none. -/
structure Renamed (suffix name renamed : List Char) : Prop where
  replaced : ∀ before after, LastInnerDot name before after → name.getLast? ≠ some '.' →
    renamed = before ++ suffix
  appended : (∀ before after, ¬ LastInnerDot name before after) ∨ name.getLast? = some '.' →
    renamed = name ++ suffix

theorem renamed_stem (name suffix : String) :
    Renamed suffix.toList name.toList (stem name ++ suffix).toList := by
  constructor
  case replaced =>
    intro before after inner closed
    have stem := stem_of_split inner.split inner.notFirst inner.notLast (inner.not_mem_after closed)
    rw [stem, String.toList_append, String.toList_ofList]
  case appended =>
    intro none
    rcases stem_cases name with ⟨before, after, split, last, notFirst, notLast, -⟩ | ⟨stem, -⟩
    · rcases none with none | ends
      · exact absurd (lastInnerDot_of_split split notFirst notLast last) (none before after)
      · -- What follows the last dot is not empty, so that the name ends in something else.
        obtain ⟨init, c, rfl⟩ := (List.eq_nil_or_concat after).resolve_left notLast
        have whole : name.toList = (before ++ '.' :: init) ++ [c] := by
          rw [split, List.append_assoc, List.cons_append, List.concat_eq_append]
        rw [whole, List.getLast?_concat] at ends
        cases ends
        simp at last
    · rw [stem, String.toList_append]

/-- A suffix makes a name of a name. -/
theorem isName_stem_append {name suffix : String} {letters : List Char} (isName : IsName name)
    (dotted : suffix.toList = '.' :: letters) (plain : '/' ∉ letters) :
    IsName (stem name ++ suffix) := by
  have visible := stem_ne_empty isName.ne_empty
  have chars : (stem name ++ suffix).toList = (stem name).toList ++ '.' :: letters := by
    rw [String.toList_append, dotted]
  refine ⟨fun none => ?_, fun dot => ?_, ?_⟩
  · simpa [chars] using congrArg String.toList none
  · have short := congrArg (fun s => s.toList.length) dot
    have long : 0 < (stem name).toList.length := List.length_pos_iff.2 (by simpa using visible)
    simp only [chars, List.length_append, List.length_cons] at short
    have one : ".".toList.length = 1 := by decide
    omega
  · rw [chars, List.mem_append, List.mem_cons]
    rintro (inside | slash | among)
    · exact isName.unbroken (stem_subset name inside)
    · exact absurd slash (by decide)
    · exact plain among

variable {path : Path} {name suffix : String} {letters : List Char}

theorem withSuffix_of_name (named : path.name? = some name) (isSuffix : isSuffix suffix = true) :
    path.withSuffix suffix =
      .ok { path with names := path.names.dropLast ++ [stem name ++ suffix] } := by
  simp [withSuffix, isSuffix, named]

theorem isSuffix_of_dotted (dotted : suffix.toList = '.' :: letters) (lettered : letters ≠ [])
    (plain : '/' ∉ letters) : isSuffix suffix = true := by
  have other : suffix ≠ "." := by
    rintro rfl
    exact lettered (List.cons.inj dotted).2.symm
  simp [isSuffix, dotted, plain, other]

end Path

namespace Book

open Manuscript.Path

/-- Where the book of a source goes, if the source has a name. -/
structure Beside (source suffix name : String) (target : Path) : Prop where
  parent : target.parent = (ofString source).parent
  named : ∃ renamed, target.name? = some renamed ∧
    Renamed suffix.toList name.toList renamed.toList
  /-- The path is the one of its own book. -/
  again : outputPath target.toString suffix = .ok target

/-- **A book goes beside its source, under the source's name with another suffix**, and the book of
that file is the file itself. -/
theorem output_beside_source {source suffix name : String} {letters : List Char}
    (named : (ofString source).name? = some name) (dotted : suffix.toList = '.' :: letters)
    (lettered : letters ≠ []) (plain : ∀ c ∈ letters, c ≠ '.' ∧ c ≠ '/') :
    ∃ target, outputPath source suffix = .ok target ∧ Beside source suffix name target := by
  have isNames := wellFormed_ofString source
  have isName := isNames name (List.mem_of_getLast? named)
  have noDot : '.' ∉ letters := fun h => (plain _ h).1 rfl
  have noSlash : '/' ∉ letters := fun h => (plain _ h).2 rfl
  have isSuffix := isSuffix_of_dotted dotted lettered noSlash
  let target : Path := { ofString source with
    names := (ofString source).names.dropLast ++ [stem name ++ suffix] }
  have last : target.name? = some (stem name ++ suffix) := List.getLast?_concat
  have front : target.names.dropLast = (ofString source).names.dropLast := List.dropLast_concat
  refine ⟨target, withSuffix_of_name named isSuffix, ?_, ⟨_, last, renamed_stem name suffix⟩, ?_⟩
  · rw [Path.parent, front]
    rfl
  · have wellFormed : target.WellFormed := by
      intro n hn
      rcases List.mem_append.1 hn with above | here
      · exact isNames n (List.dropLast_subset _ above)
      · obtain rfl := List.mem_singleton.1 here
        exact isName_stem_append isName dotted noSlash
    have same := stem_stem_append isName.ne_empty dotted lettered noDot
    rw [outputPath, ofString_toString wellFormed, withSuffix_of_name last isSuffix, same, front]

/-- A name that begins with two dots, in a directory whose name has a suffix as well. -/
theorem notes_output :
    (ofString "/a/./b.d//..notes.org").name? = some "..notes.org" ∧ ".md".toList = ['.', 'm', 'd'] ∧
      (∀ c ∈ ['m', 'd'], c ≠ '.' ∧ c ≠ '/') ∧
    ∃ target, outputPath "/a/./b.d//..notes.org" ".md" = .ok target ∧
      Beside "/a/./b.d//..notes.org" ".md" "..notes.org" target := by
  have named : (ofString "/a/./b.d//..notes.org").name? = some "..notes.org" := by decide +kernel
  have dotted : ".md".toList = ['.', 'm', 'd'] := by decide
  have plain : ∀ c ∈ ['m', 'd'], c ≠ '.' ∧ c ≠ '/' := by simp
  exact ⟨named, dotted, plain, output_beside_source named dotted (by decide) plain⟩

/-- The last inner dot of a name that ends in a dot does not begin a suffix. -/
theorem trailing_dot_ends_suffix :
    (ofString "a.b.").name? = some "a.b." ∧
      LastInnerDot "a.b.".toList "a".toList "b.".toList ∧
      outputPath "a.b." ".md" = .ok ⟨.relative, ["a.b..md"]⟩ ∧
      "a.b..md".toList ≠ "a".toList ++ ".md".toList := by
  refine ⟨by decide +kernel, ⟨by decide, by decide, by decide, ?_⟩, by decide +kernel, by decide⟩
  intro before after split notFirst notLast
  have chars : "a.b.".toList = ['a', '.', 'b', '.'] := by decide
  have length := congrArg List.length (chars.symm.trans split)
  have visible := List.length_pos_iff.2 notLast
  -- Of the places inside only the second one holds a dot.
  match before with
  | [] => exact absurd rfl notFirst
  | [_] => exact Nat.le_refl 1
  | [_, _] => simp [chars] at split
  | _ :: _ :: _ :: rest =>
    simp only [List.length_append, List.length_cons, List.length_nil] at length
    omega

end Book

end Manuscript
