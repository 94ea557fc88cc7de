import Manuscript.Event
import Manuscript.Footnote.Definition
import Manuscript.Text.Capacity

/-!
# Failures of rendering

Why a document cannot be rendered. Most documents can: what a format cannot express is left out,
unless the options forbid it. The rest are parts of a document that contradict each other.
-/

namespace Manuscript

/-- Why a document cannot be rendered. -/
inductive RenderError where
  /-- Content would be left out although that is not allowed. -/
  | dropped (kind : Kind) (reason : DropReason)
  /-- A footnote has no number. -/
  | unnumbered (key : Footnote.Key)
  /-- A column is aligned by a word that names no alignment. -/
  | unknownAlignment (word : String)
  /-- A table has no list of alignments. -/
  | noAlignments
  /-- A value of this type has nothing of this name. -/
  | noAttribute (typeName name : String)
  /-- A list of nodes stands where a text has to be. -/
  | noText
  /-- A table without rows was given rendered rows. -/
  | noRows
  /-- A fence would be longer than a text can be. -/
  | fenceTooLong (e : Text.TooLong)
  /-- A caption is shown inside itself without end. -/
  | captionCycle
deriving DecidableEq, Repr

namespace RenderError

/-- The wording of a failure. A footnote without a label has nothing to be called by. -/
def message : RenderError → String
  | dropped kind reason =>
    "Cannot render " ++ kind.name ++ " as Leanpub Markdown: " ++ reason.text
  | unnumbered (.label label) => Text.quote label
  | unnumbered (.anonymous _) => ""
  | unknownAlignment word => Text.quote word
  | noAlignments => "'NoneType' object is not iterable"
  | noAttribute typeName name => "'" ++ typeName ++ "' object has no attribute '" ++ name ++ "'"
  | noText => "expected str instance, list found"
  | noRows => "list index out of range"
  | fenceTooLong e => e.message
  | captionCycle => "maximum recursion depth exceeded"

end RenderError

end Manuscript
