import Manuscript.Proofs.Book

/-!
# Texts at their destinations

A text that is rendered arrives as a whole, whatever it is sent to, and what cannot be rendered or
delivered changes nothing, unless it is a text without bytes that goes to a file:

* `Sink.TakesBytes`, `Sink.TakesText`: what takes bytes and what takes text, by its classes first
  and by its mode only if it has none;
* `isBinary_eq_true_iff`, `isBinary_eq_false_iff`: so sinks are told apart, and each is one of the
  two;
* `payload_of_takesBytes`, `payload_of_takesText`: what they receive;
* `delivered_deliver`: what a delivery comes to, according to the destination;
* `sent_whole_untouched_or_emptied`: so it is with everything that is sent.
-/

namespace Manuscript

/-! ## Sinks -/

namespace Sink

variable {sink : Sink}

/-- Bytes go to streams in memory that hold bytes, to other streams with a buffer or without one
unless they are streams of text, and to what is no stream but claims to take bytes. -/
inductive TakesBytes (sink : Sink) : Prop where
  | memory (h : .memoryBytes ∈ sink.classes)
  | stream (h : .buffered ∈ sink.classes ∨ .raw ∈ sink.classes)
      (notMemory : .memoryText ∉ sink.classes) (notText : .textual ∉ sink.classes)
  | mode (noStream : sink.classes = []) (mode : String) (h : sink.mode = .text mode)
      (b : 'b' ∈ mode.toList)

/-- Text goes to streams of text, and to what is no stream and does not claim to take bytes. -/
inductive TakesText (sink : Sink) : Prop where
  | stream (notBytes : .memoryBytes ∉ sink.classes)
      (h : .memoryText ∈ sink.classes ∨ .textual ∈ sink.classes)
  | mode (noStream : sink.classes = []) (noB : ∀ mode, sink.mode = .text mode → 'b' ∉ mode.toList)

theorem isA_eq_true_iff {c : StreamClass} : sink.isA c = true ↔ c ∈ sink.classes :=
  List.contains_iff_mem

theorem isA_eq_false_iff {c : StreamClass} : sink.isA c = false ↔ c ∉ sink.classes := by
  rw [← Bool.not_eq_true, isA_eq_true_iff]

theorem mode_isBinary_iff {mode : Mode} :
    mode.isBinary = true ↔ ∃ text, mode = .text text ∧ 'b' ∈ text.toList := by
  cases mode <;> simp [Mode.isBinary]

theorem isBinary_of_noStream (noStream : sink.classes = []) :
    sink.isBinary = sink.mode.isBinary := by
  simp [isBinary, isA, noStream]

theorem TakesBytes.isBinary (h : sink.TakesBytes) : sink.isBinary = true := by
  cases h with
  | memory h => simp [Sink.isBinary, isA_eq_true_iff.2 h]
  | stream h notMemory notText =>
    have buffered : (sink.isA .buffered || sink.isA .raw) = true := by
      simpa [isA_eq_true_iff] using h
    simp [Sink.isBinary, isA_eq_false_iff.2 notMemory, isA_eq_false_iff.2 notText, buffered]
  | mode noStream mode h b =>
    rw [isBinary_of_noStream noStream]
    exact mode_isBinary_iff.2 ⟨mode, h, b⟩

theorem TakesText.isBinary (h : sink.TakesText) : sink.isBinary = false := by
  cases h with
  | stream notBytes h =>
    rw [← isA_eq_true_iff, ← isA_eq_true_iff] at h
    rcases h with h | h <;> simp [Sink.isBinary, isA_eq_false_iff.2 notBytes, h]
  | mode noStream noB =>
    rw [isBinary_of_noStream noStream, ← Bool.not_eq_true, mode_isBinary_iff]
    rintro ⟨mode, h, b⟩
    exact noB mode h b

/-- Every sink takes bytes or text. The classes are asked for in the order in which they decide. -/
theorem takesBytes_or_takesText (sink : Sink) : sink.TakesBytes ∨ sink.TakesText := by
  by_cases memory : .memoryBytes ∈ sink.classes
  · exact .inl (.memory memory)
  by_cases text : .memoryText ∈ sink.classes ∨ .textual ∈ sink.classes
  · exact .inr (.stream memory text)
  obtain ⟨notMemory, notText⟩ := not_or.1 text
  by_cases bytes : .buffered ∈ sink.classes ∨ .raw ∈ sink.classes
  · exact .inl (.stream bytes notMemory notText)
  have noStream : sink.classes = [] := by
    apply List.eq_nil_iff_forall_not_mem.2
    intro c
    cases c with
    | memoryBytes => exact memory
    | memoryText => exact notMemory
    | textual => exact notText
    | buffered => exact fun h => bytes (.inl h)
    | raw => exact fun h => bytes (.inr h)
  by_cases claimed : ∃ mode, sink.mode = .text mode ∧ 'b' ∈ mode.toList
  · obtain ⟨mode, h, b⟩ := claimed
    exact .inl (.mode noStream mode h b)
  · exact .inr (.mode noStream fun mode h b => claimed ⟨mode, h, b⟩)

theorem isBinary_eq_true_iff : sink.isBinary = true ↔ sink.TakesBytes := by
  constructor
  · intro binary
    apply sink.takesBytes_or_takesText.resolve_right
    intro text
    simp [text.isBinary] at binary
  · exact TakesBytes.isBinary

theorem isBinary_eq_false_iff : sink.isBinary = false ↔ sink.TakesText := by
  constructor
  · intro textual
    apply sink.takesBytes_or_takesText.resolve_left
    intro bytes
    simp [bytes.isBinary] at textual
  · exact TakesText.isBinary

-- The mode of a stream does not count.
example : isBinary ⟨[.textual], .text "wb"⟩ = false := by decide

/-- No sink takes both. -/
theorem takesBytes_iff : sink.TakesBytes ↔ ¬ sink.TakesText := by
  rw [← isBinary_eq_true_iff, ← isBinary_eq_false_iff, Bool.not_eq_false]

end Sink

/-! ## Delivery -/

variable {encoding : Encoding} {environment : Environment} {store : Store} {s : String}

theorem Sink.payload_of_takesBytes {sink : Sink} (takes : sink.TakesBytes) :
    sink.payload encoding s = .bytes <$> encoding.encode s := by
  rw [payload, takes.isBinary]
  rfl

theorem Sink.payload_of_takesText {sink : Sink} (takes : sink.TakesText) :
    sink.payload encoding s = .ok (.text s) := by
  rw [payload, takes.isBinary]
  rfl

/-- What a delivery comes to: the result, and the files there are afterwards. -/
inductive Delivered (encoding : Encoding) (environment : Environment) (store : Store) (s : String) :
    Destination → Except DeliveryError (Option Payload) → Store → Prop where
  /-- A file holds the bytes of the text, whatever it held before, and no other file is touched. -/
  | file {path : Path} {place : Place} {bytes : ByteArray} {after : Store}
      (leads : store.Leads encoding environment path place) (encodes : Encodes bytes s)
      (replaced : store.Replaced after place bytes) :
      Delivered encoding environment store s (.file path) (.ok none) after
  | unopened {path : Path} {e : WriteError}
      (nowhere : ∀ place, ¬ store.Leads encoding environment path place) :
      Delivered encoding environment store s (.file path) (.error (.write e)) store
  /-- A file is opened, and therefore empty, when it turns out that the text has no bytes. -/
  | emptied {path : Path} {place : Place} {e : EncodeError} {after : Store}
      (leads : store.Leads encoding environment path place)
      (lone : encoding.FirstLone 0 s.toList e) (replaced : store.Replaced after place .empty) :
      Delivered encoding environment store s (.file path) (.error (.write (.text e))) after
  | bytes {sink : Sink} {bytes : ByteArray} (takes : sink.TakesBytes) (encodes : Encodes bytes s) :
      Delivered encoding environment store s (.sink sink) (.ok (some (.bytes bytes))) store
  /-- Nothing is written to a sink of bytes if the text has none. -/
  | unwritten {sink : Sink} {e : EncodeError} (takes : sink.TakesBytes)
      (lone : encoding.FirstLone 0 s.toList e) :
      Delivered encoding environment store s (.sink sink) (.error (.write (.text e))) store
  | text {sink : Sink} (takes : sink.TakesText) :
      Delivered encoding environment store s (.sink sink) (.ok (some (.text s))) store
  | unsupported (typeName : String) :
      Delivered encoding environment store s (.unsupported typeName)
        (.error (.unsupported typeName)) store

theorem delivered_file {path : Path} {result : Except WriteError Unit} {after : Store}
    (h : store.Writes encoding environment path s result after) :
    Delivered encoding environment store s (.file path)
      ((result.map fun _ => none).mapError .write) after := by
  cases h with
  | unopened fails nowhere => exact .unopened nowhere
  | emptied leads lone replaced => exact .emptied leads lone replaced
  | written leads expresses replaced => exact .file leads (encodes_toUTF8 s) replaced

/-- Every delivery comes to one of these ends. -/
theorem delivered_deliver (encoding : Encoding) (environment : Environment) (store : Store)
    (s : String) (destination : Destination) :
    Delivered encoding environment store s destination
      (deliver encoding environment store s destination).1
      (deliver encoding environment store s destination).2 := by
  cases destination with
  | file path => exact delivered_file (Store.writes_write store encoding environment path s)
  | unsupported typeName => exact .unsupported typeName
  | sink sink =>
    rw [deliver]
    rcases sink.takesBytes_or_takesText with takes | takes
    · rw [Sink.payload_of_takesBytes takes]
      by_cases expresses : encoding.Expresses s
      · rw [Encoding.encode_of_expresses expresses]
        exact .bytes takes (encodes_toUTF8 s)
      · obtain ⟨e, fails, lone⟩ := Encoding.encode_of_not_expresses expresses
        rw [fails]
        exact .unwritten takes lone
    · rw [Sink.payload_of_takesText takes]
      exact .text takes

variable {destination : Destination} {rendered : Outcome RenderError String}

/-- What was rendered is delivered, and the run ends as the delivery does. -/
theorem send_of_ok (h : rendered.result = .ok s) :
    let run := Run.send encoding environment rendered store destination
    run.outcome.result =
        (deliver encoding environment store s destination).1.mapError .delivery ∧
      run.store = (deliver encoding environment store s destination).2 := by
  apply Run.after_of_ok
  rw [Outcome.mapError, h]
  rfl

theorem send_of_error {e : RenderError} (h : rendered.result = .error e) :
    let run := Run.send encoding environment rendered store destination
    run.outcome.result = .error (.render e) ∧ run.store = store := by
  apply Run.after_of_error
  rw [Outcome.mapError, h]
  rfl

/-- What sending a text comes to: it is delivered, or there is none and nothing is touched. -/
inductive Sent (encoding : Encoding) (environment : Environment) (store : Store)
    (destination : Destination) (text : Except RenderError String) :
    Except Failure (Option Payload) → Store → Prop where
  | unrendered {e : RenderError} (hs : text = .error e) :
      Sent encoding environment store destination text (.error (.render e)) store
  | delivered {s : String} {result : Except DeliveryError (Option Payload)} {after : Store}
      (hs : text = .ok s)
      (h : Delivered encoding environment store s destination result after) :
      Sent encoding environment store destination text (result.mapError .delivery) after

theorem sent_send (encoding : Encoding) (environment : Environment)
    (rendered : Outcome RenderError String) (store : Store) (destination : Destination) :
    let run := Run.send encoding environment rendered store destination
    Sent encoding environment store destination rendered.result run.outcome.result run.store := by
  intro run
  cases text : rendered.result with
  | error e =>
    obtain ⟨ends, files⟩ : run.outcome.result = _ ∧ run.store = _ := send_of_error text
    rw [ends, files]
    exact .unrendered rfl
  | ok s =>
    obtain ⟨ends, files⟩ : run.outcome.result = _ ∧ run.store = _ := send_of_ok text
    rw [ends, files]
    exact .delivered rfl (delivered_deliver encoding environment store s destination)

/-- Where a text goes is a file that can be opened. -/
def Destination.Opens (destination : Destination) (encoding : Encoding)
    (environment : Environment) (store : Store) (place : Place) : Prop :=
  ∃ path, destination = .file path ∧ store.Leads encoding environment path place

theorem Sent.untouched_or_emptied {text : Except RenderError String}
    {result : Except Failure (Option Payload)} {after : Store} {e : Failure}
    (h : Sent encoding environment store destination text result after)
    (failed : result = .error e) :
    after = store ∨ ∃ s place, text = .ok s ∧ ¬ encoding.Expresses s ∧
      destination.Opens encoding environment store place ∧ store.Replaced after place .empty := by
  cases h with
  | unrendered => exact .inl rfl
  | delivered hs h =>
    cases h with
    | emptied leads lone replaced =>
      exact .inr ⟨_, _, hs, lone.not_expresses, ⟨_, rfl, leads⟩, replaced⟩
    | unopened | unwritten | unsupported => exact .inl rfl
    | file | bytes | text => cases failed

/-- **What is sent arrives as a whole, or nothing is touched**, whatever rendered it and wherever it
goes, unless a file is opened for a text that has no bytes. -/
theorem sent_whole_untouched_or_emptied (encoding : Encoding) (environment : Environment)
    (store : Store) (destination : Destination) (renderer : Renderer) (document : Node) :
    let text := (renderer.render environment document).result
    let run := renderer.renderTo encoding environment store document destination
    Sent encoding environment store destination text run.outcome.result run.store ∧
      (∀ e, run.outcome.result = .error e → run.store = store ∨
        ∃ s place, text = .ok s ∧ ¬ encoding.Expresses s ∧
          destination.Opens encoding environment store place ∧
          store.Replaced run.store place .empty) ∧
      ∀ sink : Sink, sink.TakesBytes ↔ ¬ sink.TakesText := by
  intro text run
  have sent := sent_send encoding environment (renderer.render environment document) store
    destination
  exact ⟨sent, fun e failed => sent.untouched_or_emptied failed, fun _ => Sink.takesBytes_iff⟩

end Manuscript
