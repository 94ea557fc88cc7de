import Manuscript.Destination
import Manuscript.Options.Update
import Manuscript.Renderer

/-!
# Failures

Everything that can end a request: a node or options that cannot be built, options of the wrong
class, a document that cannot be rendered, a text that would become too long, a path that cannot be
used, a text that cannot be delivered, and a book that cannot be written to its file.
-/

namespace Manuscript

/-- Why a request fails. -/
inductive Failure where
  | node (e : NodeError)
  | options (e : OptionsError)
  | wrongOptions (e : WrongOptions)
  | render (e : RenderError)
  | text (e : Text.TooLong)
  | path (e : PathError)
  | delivery (e : DeliveryError)
  /-- A book could not be written to its file. -/
  | output (target : Path) (e : FileError)

namespace Failure

def message : Failure → String
  | node e => e.message
  | options e => e.message
  | wrongOptions e => e.message
  | render e => e.message
  | text e => e.message
  | path e => e.message
  | delivery e => e.message
  | output target e =>
    "Failed to write Leanpub output to " ++ target.toString ++ ": " ++ e.message

end Failure

end Manuscript
