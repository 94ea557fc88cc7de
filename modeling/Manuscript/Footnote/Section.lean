import Manuscript.Document.Fold
import Manuscript.Footnote.Index
import Manuscript.Markdown.Convert

/-!
# The footnote section

The definitions of all footnotes in the order of their numbers, after the body. Each stands under
its marker and is set apart from the next by a blank line.
-/

namespace Manuscript.Footnote

variable {ε : Type}

/-- The definition of one footnote. -/
def Entry.render (render : Node → Outcome ε String) (entry : Entry) : Outcome ε String := do
  let body ← renderNodes render entry.content
  return Markdown.footnoteDefinition entry.marker body

/-- The definitions of all footnotes. -/
def Index.renderDefinitions (render : Node → Outcome ε String) (index : Index) :
    Outcome ε String := do
  let definitions ← index.entries.mapM (Entry.render render)
  return "\n\n".intercalate definitions

/-- A body with the definitions after it, if there are any. -/
def Index.appendSection (render : Node → Outcome ε String) (index : Index) (body : String) :
    Outcome ε String := do
  if index.entries.isEmpty then return body
  let definitions ← index.renderDefinitions render
  return body ++ "\n\n" ++ definitions

end Manuscript.Footnote
