import Manuscript.Store

/-!
# Destinations

A text goes to a file or to something that takes what is written. Files and binary streams receive
its UTF-8 encoding, text streams the text itself. Of things that are no streams, those count as
binary whose mode is a text with a `b` in it.
-/

namespace Manuscript

/-- The mode that something claims to have been opened in. -/
inductive Mode where
  | absent
  | text (mode : String)
  | number (mode : Int)
  /-- A value of any other type. -/
  | other
deriving DecidableEq, Repr

/-- Only a text can claim that bytes are taken. -/
def Mode.isBinary : Mode → Bool
  | text mode => mode.toList.contains 'b'
  | _ => false

/-- The classes of streams that are told apart: those in memory, those that take text, and those
that take bytes with a buffer or without one. -/
inductive StreamClass where
  | memoryBytes | memoryText | textual | buffered | raw
deriving DecidableEq, Repr

/-- What can be written to: the classes of streams that it belongs to, of which there may be several
or none, and its mode. -/
structure Sink where
  classes : List StreamClass
  mode : Mode
deriving DecidableEq, Repr

namespace Sink

def isA (sink : Sink) (c : StreamClass) : Bool := sink.classes.contains c

/-- Whether bytes are written. The first class in this order that the sink belongs to decides, and
only without any of them its mode. -/
def isBinary (sink : Sink) : Bool :=
  if sink.isA .memoryBytes then true
  else if sink.isA .memoryText then false
  else if sink.isA .textual then false
  else if sink.isA .buffered || sink.isA .raw then true
  else sink.mode.isBinary

/-- A stream of bytes. -/
def binary : Sink := ⟨[.memoryBytes, .buffered], .absent⟩

/-- A stream of text. -/
def text : Sink := ⟨[.memoryText, .textual], .absent⟩

/-- Something that is no stream but takes what is written. -/
def other (mode : Mode) : Sink := ⟨[], mode⟩

end Sink

/-- Where a text may be sent. -/
inductive Destination where
  | file (path : Path)
  | sink (sink : Sink)
  /-- A value that nothing can be written to, by the name of its type. -/
  | unsupported (typeName : String)
deriving DecidableEq, Repr

/-- What a sink received. -/
inductive Payload where
  | text (s : String)
  | bytes (b : ByteArray)

/-- Why a text cannot be delivered. -/
inductive DeliveryError where
  | write (e : WriteError)
  | unsupported (typeName : String)
deriving DecidableEq, Repr

namespace DeliveryError

def message : DeliveryError → String
  | write e => e.message
  | unsupported typeName => "Unsupported output type: <class '" ++ typeName ++ "'>"

end DeliveryError

/-- What a sink receives of a text. A text that has no bytes is not written to it at all. -/
def Sink.payload (sink : Sink) (encoding : Encoding) (s : String) : Except EncodeError Payload :=
  if sink.isBinary then .bytes <$> encoding.encode s else .ok (.text s)

/-- Sends a text to its destination. What comes out is what a sink received, if the destination is
one, and the files there are afterwards. -/
def deliver (encoding : Encoding) (environment : Environment) (store : Store) (s : String) :
    Destination → Except DeliveryError (Option Payload) × Store
  | .file path =>
    let (written, store) := store.write encoding environment path s
    ((written.map fun _ => none).mapError .write, store)
  | .sink sink => (((sink.payload encoding s).map some).mapError fun e => .write (.text e), store)
  | .unsupported typeName => (.error (.unsupported typeName), store)

end Manuscript
