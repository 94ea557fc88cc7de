import Mathlib.Data.Bool.Basic
import Manuscript.Proofs.Outcome
import Manuscript.Proofs.Text.Encoding
import Manuscript.Store

/-!
# Writing a file

A file is written as a whole, is left empty by a text that has no bytes, or is not opened at all:

* `read?_put`: it holds what was put there, and every other file what it held before;
* `Passable`, `locate_eq_ok_iff`: the ways that lead to a file that can be opened;
* `Leads`, `target_eq_ok_iff`: the paths that lead there;
* `Writes`, `writes_write`: what writing comes to, and the files there are then.
-/

namespace Manuscript.Store

variable {store : Store} {place other : Place} {content : ByteArray}

theorem isFile_iff : store.isFile place = true ↔ (store.read? place).isSome := by
  simp only [isFile, read?, List.lookup_isSome_iff, List.any_eq_true, beq_iff_eq]
  exact exists_congr fun _ => and_congr_right fun _ => eq_comm

theorem lookup_replaced (files : List (Place × ByteArray)) :
    (files.map fun file => if file.1 == place then (place, content) else file).lookup other =
      if other = place then (files.lookup place).map fun _ => content else files.lookup other := by
  induction files with
  | nil => simp
  | cons file files ih => grind

/-- A file that is put holds its content, and all others hold what they held. -/
theorem read?_put :
    (store.put place content).read? other =
      if other = place then some content else store.read? other := by
  unfold put
  split
  next old =>
    obtain ⟨held, found⟩ := Option.isSome_iff_exists.1 (isFile_iff.1 old)
    simp only [read?] at found ⊢
    rw [lookup_replaced, found]
    rfl
  next new =>
    have absent : store.files.lookup place = none :=
      Option.not_isSome_iff_eq_none.1 (mt isFile_iff.2 new)
    rw [read?, List.lookup_append]
    by_cases same : other = place
    · simp [same, absent]
    · simp only [List.lookup_cons, beq_false_of_ne same, List.lookup_nil, Option.or_none, same,
        if_false, read?]

theorem put_directories : (store.put place content).directories = store.directories := by
  unfold put
  split <;> rfl

/-- A way from a place leads to a file that can be written: all places on it but the last are
directories, the last one is none, and no name is too long. -/
structure Passable (store : Store) (place : Place) (names : List Name) : Prop where
  named : names ≠ []
  short : ∀ name ∈ names, name.length ≤ maxName
  parents : ∀ before, before ≠ [] → before ≠ names → before <+: names →
    store.isDirectory (follow place before) = true
  file : store.isDirectory (follow place names) = false

theorem passable_singleton {name : Name} :
    store.Passable place [name] ↔
      name.length ≤ maxName ∧ store.isDirectory (enter place name) = false := by
  constructor
  · intro h
    exact ⟨h.short name (by simp), h.file⟩
  · rintro ⟨short, file⟩
    refine ⟨by simp, by simpa using short, fun before some other start => ?_, file⟩
    -- The only start of this way but the empty one is the way itself.
    obtain ⟨rest, same⟩ := start
    cases before with
    | nil => exact absurd rfl some
    | cons first before => simp_all

theorem passable_cons {name : Name} {names : List Name} (more : names ≠ []) :
    store.Passable place (name :: names) ↔ name.length ≤ maxName ∧
      store.isDirectory (enter place name) = true ∧ store.Passable (enter place name) names := by
  constructor
  · intro h
    refine ⟨h.short name (by simp), ?_, more, fun n hn => h.short n (by simp [hn]), ?_, h.file⟩
    · exact h.parents [name] (by simp) (by simpa using more.symm) (by simp)
    · intro before some other start
      exact h.parents (name :: before) (by simp) (by simpa using other) (by simpa using start)
  · rintro ⟨short, directory, h⟩
    refine ⟨by simp, ?_, fun before some other start => ?_, h.file⟩
    · intro n hn
      rcases List.mem_cons.1 hn with rfl | hn
      · exact short
      · exact h.short n hn
    · cases before with
      | nil => exact absurd rfl some
      | cons first before =>
        obtain ⟨rfl, within⟩ := List.cons_prefix_cons.1 start
        cases before with
        | nil => exact directory
        | cons second before => exact h.parents _ (by simp) (by simpa using other) within

theorem locate_eq_ok_iff {names : List Name} {target : Place} :
    store.locate place names = .ok target ↔
      store.Passable place names ∧ target = follow place names := by
  induction names generalizing place with
  | nil =>
    constructor
    · intro h
      cases h
    · rintro ⟨passable, -⟩
      exact absurd rfl passable.named
  | cons name names ih =>
    rw [locate]
    by_cases long : maxName < name.length
    · rw [if_pos long]
      constructor
      · intro h
        cases h
      · rintro ⟨passable, -⟩
        have short := passable.short name List.mem_cons_self
        omega
    · have short : name.length ≤ maxName := by omega
      rw [if_neg long]
      cases names with
      | nil =>
        rw [passable_singleton]
        cases store.isDirectory (enter place name) <;> simp [short, follow, eq_comm]
      | cons next names =>
        rw [passable_cons (by simp)]
        cases store.isDirectory (enter place name) with
        | true => simp [short, ih, follow]
        | false => cases store.isFile (enter place name) <;> simp

/-- A path leads to a place where a file can be opened: it has a name that a system takes, and from
its start its names lead there. -/
inductive Leads (store : Store) (encoding : Encoding) (environment : Environment) (path : Path) :
    Place → Prop where
  | intro {bytes : List UInt8} {start : Place} {names : List Name}
      (named : encoding.encodeName path.toString = .ok bytes) (noNull : 0 ∉ bytes)
      (short : bytes.length ≤ maxPath) (starts : environment.start encoding path = .ok start)
      (encoded : path.names.mapM encoding.encodeName = .ok names)
      (directory : store.isDirectory start = true) (passable : store.Passable start names) :
      Leads store encoding environment path (follow start names)

variable {encoding : Encoding} {environment : Environment} {path : Path} {s : String}

theorem target_eq_ok_iff :
    store.target encoding environment path = .ok place ↔
      store.Leads encoding environment path place := by
  constructor
  · intro h
    obtain ⟨bytes, named, h⟩ := except_bind_eq_ok h
    obtain ⟨⟨⟩, noNull, h⟩ := except_bind_eq_ok h
    obtain ⟨⟨⟩, short, h⟩ := except_bind_eq_ok h
    obtain ⟨start, starts, h⟩ := except_bind_eq_ok h
    obtain ⟨names, encoded, h⟩ := except_bind_eq_ok h
    obtain ⟨⟨⟩, directory, located⟩ := except_bind_eq_ok h
    obtain ⟨passable, rfl⟩ := locate_eq_ok_iff.1 (except_mapError_eq_ok_iff.1 located)
    exact .intro (except_mapError_eq_ok_iff.1 named) (by simpa using require_eq_ok_iff.1 noNull)
      (by simpa using require_eq_ok_iff.1 short) (except_mapError_eq_ok_iff.1 starts)
      (except_mapError_eq_ok_iff.1 encoded) (require_eq_ok_iff.1 directory) passable
  · rintro ⟨named, noNull, short, starts, encoded, directory, passable⟩
    refine bind_of_eq_ok (except_mapError_eq_ok_iff.2 named) ?_
    refine bind_of_eq_ok (require_eq_ok_iff.2 (by simpa using noNull)) ?_
    refine bind_of_eq_ok (require_eq_ok_iff.2 (by simpa using short)) ?_
    refine bind_of_eq_ok (except_mapError_eq_ok_iff.2 starts) ?_
    refine bind_of_eq_ok (except_mapError_eq_ok_iff.2 encoded) ?_
    refine bind_of_eq_ok (require_eq_ok_iff.2 directory) ?_
    exact except_mapError_eq_ok_iff.2 (locate_eq_ok_iff.2 ⟨passable, rfl⟩)

/-- How a path is refused: it has no name that a system takes, or its file cannot be opened. -/
inductive Refuses (path : Path) : WriteError → Prop where
  | name (e : EncodeError) : Refuses path (.name e)
  | nullCharacter : Refuses path .nullCharacter
  | file (fault : FileFault) : Refuses path (.file ⟨fault, path⟩)

theorem refuses_of_target {e : WriteError}
    (h : store.target encoding environment path = .error e) : Refuses path e := by
  rcases except_bind_eq_error h with h | ⟨bytes, -, h⟩
  · obtain ⟨e, -, rfl⟩ := except_mapError_eq_error_iff.1 h
    exact .name e
  rcases except_bind_eq_error h with h | ⟨⟨⟩, -, h⟩
  · obtain rfl := eq_of_require_eq_error h
    exact .nullCharacter
  rcases except_bind_eq_error h with h | ⟨⟨⟩, -, h⟩
  · obtain rfl := eq_of_require_eq_error h
    exact .file .nameTooLong
  rcases except_bind_eq_error h with h | ⟨start, -, h⟩
  · obtain ⟨e, -, rfl⟩ := except_mapError_eq_error_iff.1 h
    exact .name e
  rcases except_bind_eq_error h with h | ⟨names, -, h⟩
  · obtain ⟨e, -, rfl⟩ := except_mapError_eq_error_iff.1 h
    exact .name e
  rcases except_bind_eq_error h with h | ⟨⟨⟩, -, h⟩
  · obtain rfl := eq_of_require_eq_error h
    exact .file .missing
  · obtain ⟨fault, -, rfl⟩ := except_mapError_eq_error_iff.1 h
    exact .file fault

/-- The second store is the first one with a file at a place, whatever was there. -/
structure Replaced (before after : Store) (place : Place) (content : ByteArray) : Prop where
  holds : after.read? place = some content
  others : ∀ other, other ≠ place → after.read? other = before.read? other
  directories : after.directories = before.directories

theorem replaced_put : store.Replaced (store.put place content) place content where
  holds := by rw [read?_put, if_pos rfl]
  others _ ne := by rw [read?_put, if_neg ne]
  directories := put_directories

theorem Replaced.put {before after : Store} {old : ByteArray} (h : before.Replaced after place old)
    (content : ByteArray) : before.Replaced (after.put place content) place content where
  holds := replaced_put.holds
  others other ne := (replaced_put.others other ne).trans (h.others other ne)
  directories := replaced_put.directories.trans h.directories

/-- What writing a text comes to, and the files there are afterwards. -/
inductive Writes (store : Store) (encoding : Encoding) (environment : Environment) (path : Path)
    (s : String) : Except WriteError Unit → Store → Prop where
  /-- The file cannot be opened, and nothing is touched. -/
  | unopened {e : WriteError} (fails : store.target encoding environment path = .error e)
      (nowhere : ∀ place, ¬ store.Leads encoding environment path place) :
      Writes store encoding environment path s (.error e) store
  /-- The text cannot be encoded. The file is there by then, and empty. -/
  | emptied {place : Place} {e : EncodeError} {after : Store}
      (leads : store.Leads encoding environment path place)
      (lone : encoding.FirstLone 0 s.toList e) (replaced : store.Replaced after place .empty) :
      Writes store encoding environment path s (.error (.text e)) after
  | written {place : Place} {after : Store} (leads : store.Leads encoding environment path place)
      (expresses : encoding.Expresses s) (replaced : store.Replaced after place s.toUTF8) :
      Writes store encoding environment path s (.ok ()) after

theorem writes_write (store : Store) (encoding : Encoding) (environment : Environment)
    (path : Path) (s : String) :
    Writes store encoding environment path s (store.write encoding environment path s).1
      (store.write encoding environment path s).2 := by
  rw [write]
  cases found : store.target encoding environment path with
  | error e =>
    refine .unopened found fun place leads => ?_
    rw [target_eq_ok_iff.2 leads] at found
    cases found
  | ok place =>
    have leads := target_eq_ok_iff.1 found
    by_cases expresses : encoding.Expresses s
    · rw [Encoding.encode_of_expresses expresses]
      exact .written leads expresses (replaced_put.put _)
    · obtain ⟨e, fails, lone⟩ := Encoding.encode_of_not_expresses expresses
      rw [fails]
      exact .emptied leads lone replaced_put

end Manuscript.Store
