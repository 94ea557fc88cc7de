import Mathlib
import Manuscript.Book
import Manuscript.Proofs.Outcome
import Manuscript.Proofs.Store

/-!
# Exports to a file

A book is written to its file as a whole, or all files stay as they were, unless the file is opened
for a text that has no bytes:

* `Ends`: how an export can end, and what the files are then;
* `exportToFile_ends`: it ends in one of these ways;
* `export_whole_untouched_or_emptied`: so it does in the background, too.
-/

namespace Manuscript

namespace Run

variable {α β : Type} {store : Store} {next : α → Run β} {x : Outcome Failure α}

theorem after_of_ok {a : α} (h : x.result = .ok a) :
    (after x store next).outcome.result = (next a).outcome.result ∧
      (after x store next).store = (next a).store := by
  unfold after
  rw [h]
  exact ⟨rfl, rfl⟩

theorem after_of_error {e : Failure} (h : x.result = .error e) :
    (after x store next).outcome.result = .error e ∧ (after x store next).store = store := by
  unfold after
  rw [h]
  exact ⟨rfl, rfl⟩

end Run

namespace Book

/-- Where an export writes to: the path that is given, or else the one beside the source. -/
def target (source : String) : Option String → Except Failure Path
  | some output => .ok (.ofString output)
  | none => (outputPath source fileExtension).mapError .path

/-- The ends of an export to a target with a text, and the files there are afterwards. -/
inductive Ends (encoding : Encoding) (environment : Environment) (store : Store)
    (target : Except Failure Path) (text : Except Failure String) :
    Except Failure Path → Store → Prop where
  | noTarget {e : Failure} (ht : target = .error e) :
      Ends encoding environment store target text (.error e) store
  | noText {path : Path} {e : Failure} (ht : target = .ok path) (hs : text = .error e) :
      Ends encoding environment store target text (.error e) store
  /-- No system has a file of that name. The failure is passed on as it is. -/
  | unnamed {path : Path} {s : String} {e : WriteError} (ht : target = .ok path) (hs : text = .ok s)
      (unnamed : e = .nullCharacter ∨ ∃ lone, e = .name lone)
      (nowhere : ∀ place, ¬ store.Leads encoding environment path place) :
      Ends encoding environment store target text (.error (.delivery (.write e))) store
  /-- The file cannot be opened. The failure names the target. -/
  | unopened {path : Path} {s : String} (ht : target = .ok path) (hs : text = .ok s)
      (nowhere : ∀ place, ¬ store.Leads encoding environment path place) (fault : FileFault) :
      Ends encoding environment store target text (.error (.output path ⟨fault, path⟩)) store
  /-- The text has no bytes. The file is there by then, and empty, and the failure is passed on. -/
  | emptied {path : Path} {s : String} {place : Place} {e : EncodeError} {after : Store}
      (ht : target = .ok path) (hs : text = .ok s)
      (leads : store.Leads encoding environment path place)
      (lone : encoding.FirstLone 0 s.toList e) (hr : store.Replaced after place .empty) :
      Ends encoding environment store target text (.error (.delivery (.write (.text e)))) after
  | written {path : Path} {s : String} {place : Place} {after : Store} (ht : target = .ok path)
      (hs : text = .ok s) (leads : store.Leads encoding environment path place)
      (expresses : encoding.Expresses s) (hr : store.Replaced after place s.toUTF8) :
      Ends encoding environment store target text (.ok path) after

variable {argument : OptionsArgument} {encoding : Encoding} {environment : Environment}
  {store : Store} {document : Node} {source : String} {output : Option String}

theorem prepare_eq : prepare argument environment document source output = do
    let target ← Outcome.ofExcept (target source output)
    return (target, ← toLeanpub argument environment document) := by
  cases output <;> rfl

variable {path : Path} {s : String} {e : Failure}

theorem prepare_result_eq_ok
    (h : (prepare argument environment document source output).result = .ok (path, s)) :
    target source output = .ok path ∧
      (toLeanpub argument environment document).result = .ok s := by
  rw [prepare_eq] at h
  obtain ⟨path', ht, h⟩ := Outcome.bind_result_eq_ok_iff.1 h
  obtain ⟨s', hs, h⟩ := Outcome.bind_result_eq_ok_iff.1 h
  cases h
  exact ⟨ht, hs⟩

/-- What cannot even be prepared ends early, and what fails first decides how. -/
theorem ends_of_prepare_error
    (h : (prepare argument environment document source output).result = .error e) :
    Ends encoding environment store (target source output)
      (toLeanpub argument environment document).result (.error e) store := by
  rw [prepare_eq] at h
  rcases Outcome.bind_result_eq_error_iff.1 h with ht | ⟨path, ht, h⟩
  · exact .noTarget ht
  rcases Outcome.bind_result_eq_error_iff.1 h with hs | ⟨s, hs, h⟩
  · exact .noText ht hs
  · cases h

theorem exportToFile_of_error
    (h : (prepare argument environment document source output).result = .error e) :
    let run := exportToFile argument encoding environment store document source output
    run.outcome.result = .error e ∧ run.store = store :=
  Run.after_of_error h

/-- What is prepared is written, and the export ends as the writing does. -/
theorem exportToFile_of_ok
    (h : (prepare argument environment document source output).result = .ok (path, s)) :
    let run := exportToFile argument encoding environment store document source output
    let written := store.write encoding environment path s
    run.outcome.result = (written.1.mapError (writeFailure path)).map (fun _ => path) ∧
      run.store = written.2 := by
  intro run written
  simp only [run, exportToFile, Run.after_of_ok h, written]
  cases store.write encoding environment path s with
  | mk result after => cases result <;> exact ⟨rfl, rfl⟩

theorem ends_of_writes {result : Except WriteError Unit} {after : Store}
    (h : store.Writes encoding environment path s result after)
    {target : Except Failure Path} {text : Except Failure String} (ht : target = .ok path)
    (hs : text = .ok s) : Ends encoding environment store target text
      ((result.mapError (writeFailure path)).map fun _ => path) after := by
  cases h with
  | unopened fails nowhere =>
    cases Store.refuses_of_target fails with
    | name lone => exact .unnamed ht hs (.inr ⟨lone, rfl⟩) nowhere
    | nullCharacter => exact .unnamed ht hs (.inl rfl) nowhere
    | file fault => exact .unopened ht hs nowhere fault
  | emptied leads lone replaced => exact .emptied ht hs leads lone replaced
  | written leads expresses replaced => exact .written ht hs leads expresses replaced

/-- An export ends in one of these ways, according to its target, its text and the files. -/
theorem exportToFile_ends :
    let run := exportToFile argument encoding environment store document source output
    Ends encoding environment store (target source output)
      (toLeanpub argument environment document).result run.outcome.result run.store := by
  intro run
  cases h : (prepare argument environment document source output).result with
  | error e =>
    obtain ⟨ends, files⟩ : run.outcome.result = .error e ∧ run.store = store :=
      exportToFile_of_error h
    rw [ends, files]
    exact ends_of_prepare_error h
  | ok prepared =>
    obtain ⟨path, s⟩ := prepared
    obtain ⟨ht, hs⟩ := prepare_result_eq_ok h
    obtain ⟨ends, files⟩ : run.outcome.result = _ ∧ run.store = _ := exportToFile_of_ok h
    rw [ends, files]
    exact ends_of_writes (Store.writes_write store encoding environment path s) ht hs

/-- An export finds its target, has its text, and gets as far as opening its file. -/
structure Opens (encoding : Encoding) (environment : Environment) (store : Store)
    (target : Except Failure Path) (text : Except Failure String) (path : Path) (s : String)
    (place : Place) : Prop where
  target : target = .ok path
  text : text = .ok s
  leads : store.Leads encoding environment path place

variable {t result : Except Failure Path} {text : Except Failure String} {after : Store}

theorem Ends.untouched_or_emptied (h : Ends encoding environment store t text result after)
    (failed : result = .error e) : after = store ∨ ∃ path s place,
      Opens encoding environment store t text path s place ∧ ¬ encoding.Expresses s ∧
        store.Replaced after place .empty := by
  cases h with
  | noTarget | noText | unnamed | unopened => exact .inl rfl
  | emptied ht hs leads lone hr => exact .inr ⟨_, _, _, ⟨ht, hs, leads⟩, lone.not_expresses, hr⟩
  | written => cases failed

theorem Ends.succeeds_iff (h : Ends encoding environment store t text result after) :
    (∃ path, result = .ok path) ↔ ∃ path s place,
      Opens encoding environment store t text path s place ∧ encoding.Expresses s := by
  constructor
  · rintro ⟨path, done⟩
    cases h with
    | written ht hs leads expresses => exact ⟨_, _, _, ⟨ht, hs, leads⟩, expresses⟩
    | noTarget | noText | unnamed | unopened | emptied => cases done
  · rintro ⟨path, s, place, ⟨ht, hs, leads⟩, expresses⟩
    cases h with
    | written => exact ⟨_, rfl⟩
    | noTarget ht' => cases ht.symm.trans ht'
    | noText ht' hs' => cases hs.symm.trans hs'
    | unnamed ht' hs' unnamed nowhere =>
      cases ht.symm.trans ht'
      exact absurd leads (nowhere place)
    | unopened ht' hs' nowhere =>
      cases ht.symm.trans ht'
      exact absurd leads (nowhere place)
    | emptied ht' hs' leads' lone =>
      cases hs.symm.trans hs'
      exact absurd expresses lone.not_expresses

/-- An export to a file is done as a whole or changes nothing, unless its file is opened for a text
that has no bytes; and one in the background is no different. -/
structure Exported (argument : OptionsArgument) (encoding : Encoding) (environment : Environment)
    (store : Store) (document : Node) : Prop where
  toFile : ∀ source output,
    let run := exportToFile argument encoding environment store document source output
    Ends encoding environment store (target source output)
      (toLeanpub argument environment document).result run.outcome.result run.store
  /-- It succeeds exactly if it opens its file for a text that has bytes. -/
  succeeds : ∀ source output,
    let run := exportToFile argument encoding environment store document source output
    (∃ path, run.outcome.result = .ok path) ↔ ∃ path s place,
      Opens encoding environment store (target source output)
        (toLeanpub argument environment document).result path s place ∧ encoding.Expresses s
  /-- If it fails, every file is as it was, or the file of a text without bytes is empty. -/
  untouched : ∀ source output e,
    let run := exportToFile argument encoding environment store document source output
    run.outcome.result = .error e → run.store = store ∨ ∃ path s place,
      Opens encoding environment store (target source output)
        (toLeanpub argument environment document).result path s place ∧
        ¬ encoding.Expresses s ∧ store.Replaced run.store place .empty
  /-- With a source, the file beside it is written in the background. -/
  inBackground : ∀ source,
    let run := exportToFile argument encoding environment store document source none
    let task := exportAsync argument encoding environment store document (some source) false
    task.outcome.result = run.outcome.result.map .file ∧ task.outcome.log = run.outcome.log ∧
      task.store = run.store
  /-- Without one, the text is the result. -/
  asText :
    let task := exportAsync argument encoding environment store document none false
    task.outcome.result = (toLeanpub argument environment document).result.map .text ∧
      task.store = store
  cancelled : ∀ source,
    let task := exportAsync argument encoding environment store document source true
    task.outcome.result = .ok .cancelled ∧ task.store = store

/-- **A book is written as a whole, or no file is touched**, or its text has no bytes and its file
is emptied. -/
theorem export_whole_untouched_or_emptied (argument : OptionsArgument) (encoding : Encoding)
    (environment : Environment) (store : Store) (document : Node) :
    Exported argument encoding environment store document where
  toFile _ _ := exportToFile_ends
  succeeds _ _ := exportToFile_ends.succeeds_iff
  untouched _ _ _ failed := exportToFile_ends.untouched_or_emptied failed
  inBackground _ := ⟨Outcome.map_result _ _, Outcome.map_log _ _, rfl⟩
  asText := ⟨Outcome.map_result _ _, rfl⟩
  cancelled _ := ⟨rfl, rfl⟩

/-- UTF-8 for texts in which a private character stands for the first surrogate. -/
def halved : Encoding := ⟨fun c => if c = '\uE000' then some ⟨0xD800, by decide⟩ else none⟩

/-- The book that a source `b.org` at the root has. -/
def oldBook : Place := [[0x62, 0x2E, 0x6D, 0x64]]

/-- An export over a book that is there fails and leaves an empty file, and one to a path that no
system takes fails without a word about the output. -/
theorem surrogate_empties_book :
    let store : Store := ⟨[], [(oldBook, ⟨#[0x6F]⟩)]⟩
    let document : Node := ⟨0, .document [⟨1, .paragraph [⟨2, .text "\uE000"⟩] []⟩]⟩
    let run := exportToFile .none halved ⟨"/home", "/"⟩ store document "b.org" none
    let unnamed := exportToFile .none .plain ⟨"/home", "/"⟩ store ⟨0, .document []⟩ "b.org"
      (some "b\x00.md")
    (run.outcome.result = .error (.delivery (.write (.text ⟨⟨0xD800, by decide⟩, 0, 0⟩))) ∧
      store.read? oldBook = some ⟨#[0x6F]⟩ ∧ run.store.read? oldBook = some .empty) ∧
    unnamed.outcome.result = .error (.delivery (.write .nullCharacter)) := by
  intro store document run unnamed
  have prepared : (prepare .none ⟨"/home", "/"⟩ document "b.org" none).result =
      .ok (⟨.relative, ["b.md"]⟩, "\uE000") := by cbv
  have preparedUnnamed : (prepare .none ⟨"/home", "/"⟩ ⟨0, .document []⟩ "b.org"
      (some "b\x00.md")).result = .ok (⟨.relative, ["b\x00.md"]⟩, "") := by cbv
  obtain ⟨ends, files⟩ : run.outcome.result = _ ∧ run.store = _ := exportToFile_of_ok prepared
  refine ⟨⟨ends, rfl, ?_⟩, (exportToFile_of_ok preparedUnnamed).1⟩
  rw [files]
  rfl

end Book

end Manuscript
