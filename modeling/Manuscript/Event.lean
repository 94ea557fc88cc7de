import Manuscript.Document.Kind
import Manuscript.Text.Quoted

/-!
# Events

What an export reports about a document besides its result: things that look like mistakes as
warnings, things that were left out or decided on the way as details.
-/

namespace Manuscript

/-- Why content is left out of the book. -/
inductive DropReason where
  | unsupported
  | unsupportedLink (scheme : String)
deriving DecidableEq, Repr

def DropReason.text : DropReason → String
  | unsupported => "not supported by Leanpub"
  | unsupportedLink scheme => "unsupported link type " ++ Text.quote scheme

/-- Something worth reporting. -/
inductive Event where
  /-- A node stands under two parents; the one met first counts. -/
  | sharedNode (child first later : Kind)
  /-- A reference names a footnote that has no definition. -/
  | undefinedFootnote (label : String)
  /-- A definition belongs to no reference. -/
  | unreferencedFootnote (label : String)
  /-- Raw markup of a format that is not passed through was left out of generic output. -/
  | droppedRaw (format : String)
  /-- Content that the book cannot hold was left out. -/
  | dropped (kind : Kind) (reason : DropReason)
  /-- A node has no rule of its own and is rendered generically. -/
  | noRule (kind : Kind)
  /-- A file was written. -/
  | wrote (length : Nat) (path : String)
deriving DecidableEq, Repr

namespace Event

/-- Mistakes in the document are warnings; everything else is a detail. -/
inductive Severity where
  | detail | warning
deriving DecidableEq, Repr

def severity : Event → Severity
  | sharedNode .. | undefinedFootnote .. => .warning
  | _ => .detail

def message : Event → String
  | sharedNode child first later =>
    child.name ++ " instance appears under both " ++ first.name ++ " and " ++ later.name ++
      "; using the first parent"
  | undefinedFootnote label => "Footnote [" ++ label ++ "] is referenced but never defined"
  | unreferencedFootnote label => "Footnote [" ++ label ++ "] is defined but never referenced"
  | droppedRaw format => "Dropping raw " ++ format ++ " block"
  | dropped kind reason => "Dropping " ++ kind.name ++ ": " ++ reason.text
  | noRule kind => "No Leanpub rule for " ++ kind.name ++ ", using generic Markdown"
  | wrote length path =>
    "Wrote " ++ toString length ++ " characters of Leanpub Markdown to " ++ path

end Event

end Manuscript
