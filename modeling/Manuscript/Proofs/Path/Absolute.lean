import Manuscript.Path.Absolute
import Manuscript.Proofs.Path.Reading

/-!
# Absolute paths are in normal form

Resolving takes names back where double dots stand. From the root on, whatever the path, none is
left over, so that a resolved path leads to itself again, from any directory and for any home:

* `Resolved`: an absolute path of names that are no double dots;
* `resolve_resolved`: what resolving comes to, name by name;
* `absolute_resolved`, `absolute_toString`: where a path leads is resolved, and leads there again;
* `IsNormal`: how the text of a resolved path looks.
-/

namespace Manuscript

namespace Path

/-- An absolute path that leads straight down. -/
structure Resolved (path : Path) : Prop where
  anchored : path.anchor ≠ .relative
  wellFormed : path.WellFormed
  straight : ∀ name ∈ path.names, name ≠ ".."

/-- Below the root a step leaves no double dots. -/
theorem resolveStep_names {done : List String} {name : String}
    (straight : ∀ n ∈ done, IsName n ∧ n ≠ "..") (isName : IsName name) :
    ∀ n ∈ resolveStep true done name, IsName n ∧ n ≠ ".." := by
  unfold resolveStep
  split
  next =>
    cases h : done.getLast? with
    | none => exact straight
    | some last =>
      have other : last ≠ ".." := (straight last (List.mem_of_getLast? h)).2
      simp only [other, if_false]
      exact fun n hn => straight n (List.dropLast_subset _ hn)
  next other =>
    intro n hn
    rcases List.mem_append.1 hn with earlier | here
    · exact straight n earlier
    · obtain rfl := List.mem_singleton.1 here
      exact ⟨isName, other⟩

theorem resolve_resolved {path : Path} (anchored : path.anchor ≠ .relative)
    (wellFormed : path.WellFormed) : path.resolve.Resolved := by
  have names : ∀ n ∈ path.resolve.names, IsName n ∧ n ≠ ".." := by
    unfold resolve
    simp only [anchored, ne_eq, not_false_eq_true, decide_true]
    refine List.foldlRecOn (motive := fun done => ∀ n ∈ done, IsName n ∧ n ≠ "..") path.names _
      (fun n hn => by cases hn) fun done straight name hname => ?_
    exact resolveStep_names straight (wellFormed name hname)
  exact ⟨anchored, fun n hn => (names n hn).1, fun n hn => (names n hn).2⟩

/-- There is nothing to resolve in names that are no double dots. -/
theorem foldl_resolveStep (anchored : Bool) {names : List String}
    (straight : ∀ name ∈ names, name ≠ "..") (done : List String) :
    names.foldl (resolveStep anchored) done = done ++ names := by
  induction names generalizing done with
  | nil => simp
  | cons name names ih =>
    have step : resolveStep anchored done name = done ++ [name] :=
      if_neg (straight name (List.mem_cons_self ..))
    rw [List.foldl_cons, step, ih fun n hn => straight n (List.mem_cons_of_mem _ hn),
      List.append_assoc, List.singleton_append]

theorem Resolved.resolve_eq {path : Path} (resolved : path.Resolved) : path.resolve = path := by
  rw [resolve, foldl_resolveStep _ resolved.straight, List.nil_append]

/-- An absolute path as it is written when it leads straight down: one slash or two, and names with
single slashes between them, none of which is empty or dots that lead elsewhere. -/
def IsNormal (s : String) : Prop :=
  ∃ slashes names, (slashes = "/" ∨ slashes = "//") ∧
    (∀ name ∈ names, name ≠ "" ∧ name ≠ "." ∧ name ≠ ".." ∧ '/' ∉ name.toList) ∧
    s = slashes ++ "/".intercalate names

theorem Resolved.isNormal {path : Path} (resolved : path.Resolved) : IsNormal path.toString := by
  obtain ⟨anchored, wellFormed, straight⟩ := resolved
  refine ⟨path.anchor.text, path.names, ?_, fun name hname => ?_, toString_of_anchored anchored⟩
  · cases h : path.anchor with
    | relative => exact absurd h anchored
    | root => exact .inl rfl
    | doubleRoot => exact .inr rfl
  · obtain ⟨visible, other, unbroken⟩ := wellFormed name hname
    exact ⟨visible, other, straight name hname, unbroken⟩

theorem Resolved.head?_toString {path : Path} (resolved : path.Resolved) :
    path.toString.toList.head? = some '/' := by
  rw [toString_of_anchored resolved.anchored, String.toList_append, toList_text]
  cases h : path.anchor with
  | relative => exact absurd h resolved.anchored
  | root | doubleRoot => rfl

end Path

namespace Environment

open Manuscript.Path

variable (environment : Environment)

theorem absolute_of_relative {s : String} (h : (ofString s).anchor = .relative) :
    environment.absolute s =
      resolve ⟨.root, (ofString environment.directory).names ++ (ofString s).names⟩ := by
  simp only [absolute, h]

theorem absolute_of_anchored {s : String} (h : (ofString s).anchor ≠ .relative) :
    environment.absolute s = (ofString s).resolve := by
  cases anchored : (ofString s).anchor with
  | relative => exact absurd anchored h
  | root | doubleRoot => simp only [absolute, anchored]

theorem absolute_resolved (s : String) : (environment.absolute s).Resolved := by
  have wellFormed := wellFormed_ofString s
  by_cases h : (ofString s).anchor = .relative
  · rw [absolute_of_relative environment h]
    refine resolve_resolved Anchor.noConfusion fun name hname => ?_
    rcases List.mem_append.1 hname with above | below
    · exact wellFormed_ofString _ name above
    · exact wellFormed name below
  · rw [absolute_of_anchored environment h]
    exact resolve_resolved h wellFormed

/-- Where a resolved path leads does not depend on the current directory. -/
theorem absolute_toString {path : Path} (resolved : path.Resolved) :
    environment.absolute path.toString = path := by
  have back := ofString_toString resolved.wellFormed
  have anchored : (ofString path.toString).anchor ≠ .relative := by
    rw [back]
    exact resolved.anchored
  rw [absolute_of_anchored environment anchored, back, resolved.resolve_eq]

/-- Only a tilde is read as a home directory. -/
theorem expandHome_of_slash {s : String} (h : s.toList.head? = some '/') :
    environment.expandHome s = s := by
  unfold expandHome
  split
  next tilde => simp [tilde] at h
  next => rfl

end Environment

end Manuscript
