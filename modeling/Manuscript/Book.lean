import Manuscript.Failure

/-!
# Delivering documents

A rendered document is sent to a destination, or becomes a book in a Markdown file beside its
source. The path of the file is settled first, then the document is rendered, and only then is
the file opened, so that every file stays as it was if one of these fails. An export may also run in
the background; one that is cancelled before it starts does nothing.
-/

namespace Manuscript

/-- What a request came to, and the files there are afterwards. -/
structure Run (α : Type) where
  outcome : Outcome Failure α
  store : Store

namespace Run

variable {α β : Type}

/-- Goes on after a step that touches no file. If the step failed, all files stay as they were. -/
def after (x : Outcome Failure α) (store : Store) (next : α → Run β) : Run β :=
  match x.result with
  | .ok a => { next a with outcome := ⟨x.log ++ (next a).outcome.log, (next a).outcome.result⟩ }
  | .error e => ⟨⟨x.log, .error e⟩, store⟩

/-- The same run with another result. -/
def map (f : α → β) (run : Run α) : Run β := { run with outcome := f <$> run.outcome }

end Run

/-- Sends what was rendered to its destination; nothing is sent if rendering failed. -/
def Run.send (encoding : Encoding) (environment : Environment)
    (rendered : Outcome RenderError String) (store : Store) (destination : Destination) :
    Run (Option Payload) :=
  .after (rendered.mapError .render) store fun s =>
    let (delivered, store) := deliver encoding environment store s destination
    ⟨.ofExcept (delivered.mapError .delivery), store⟩

/-- Renders a document and sends it to its destination. -/
def Renderer.renderTo (renderer : Renderer) (encoding : Encoding) (environment : Environment)
    (store : Store) (document : Node) (destination : Destination) : Run (Option Payload) :=
  .send encoding environment (renderer.render environment document) store destination

namespace Book

/-- The extension of a book's file. -/
def fileExtension : String := ".md"

/-- Where a source's book goes: the source's path with another extension. -/
def outputPath (source : String) (suffix : String) : Except PathError Path :=
  (Path.ofString source).withSuffix suffix

/-- A document as the text of a book. -/
def toLeanpub (argument : OptionsArgument) (environment : Environment) (document : Node) :
    Outcome Failure String := do
  let renderer ← Outcome.ofExcept ((Renderer.leanpub? [] argument).mapError .wrongOptions)
  (renderer.render environment document).mapError .render

/-- The file of a book and its text, before anything is written. -/
def prepare (argument : OptionsArgument) (environment : Environment) (document : Node)
    (source : String) (output : Option String) : Outcome Failure (Path × String) := do
  let target ← match output with
    | some output => pure (Path.ofString output)
    | none => Outcome.ofExcept ((outputPath source fileExtension).mapError .path)
  return (target, ← toLeanpub argument environment document)

/-- What a file that could not be written is reported as. Only a file that cannot be opened counts
as a failed output; everything else is passed on as it is. -/
def writeFailure (target : Path) : WriteError → Failure
  | .file e => .output target e
  | e => .delivery (.write e)

/-- Writes a document as a book, beside its source or to a path of its own. -/
def exportToFile (argument : OptionsArgument) (encoding : Encoding) (environment : Environment)
    (store : Store) (document : Node) (source : String) (output : Option String) : Run Path :=
  .after (prepare argument environment document source output) store fun (target, s) =>
    match store.write encoding environment target s with
    | (.ok (), store) => ⟨⟨[.wrote s.length target.toString], .ok target⟩, store⟩
    | (.error e, store) => ⟨.fail (writeFailure target e), store⟩

/-- What an export in the background comes to. -/
inductive Background where
  | cancelled
  | text (s : String)
  | file (target : Path)

/-- Exports a document in the background: to a file beside its source, or as a text if it has
none. -/
def exportAsync (argument : OptionsArgument) (encoding : Encoding) (environment : Environment)
    (store : Store) (document : Node) (source : Option String) (cancelled : Bool) :
    Run Background :=
  if cancelled then ⟨pure .cancelled, store⟩
  else match source with
    | some source =>
      (exportToFile argument encoding environment store document source none).map .file
    | none => ⟨.text <$> toLeanpub argument environment document, store⟩

end Book

end Manuscript
