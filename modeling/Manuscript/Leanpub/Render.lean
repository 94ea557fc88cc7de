import Manuscript.Footnote.Section
import Manuscript.Leanpub.Export

/-!
# Rendering a book

The body of a book with the footnote section after it.
-/

namespace Manuscript.Leanpub

/-- The body of a document and its footnote section. -/
def Export.render (x : Export) (document : Node) : Outcome RenderError String := do
  let body ← x.transcode document
  x.context.footnotes.appendSection x.transcode body

/-- A whole document as a book. -/
def render (options : LeanpubOptions) (rules : RuleTable) (environment : Environment)
    (document : Node) : Outcome RenderError String := do
  let x ← Export.ofDocument options rules environment document
  x.render document

end Manuscript.Leanpub
