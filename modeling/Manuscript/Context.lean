import Manuscript.Document.Parents
import Manuscript.Footnote.Index
import Manuscript.Outcome
import Manuscript.RenderError

/-!
# The context of an export

What is known about a document as a whole before any of it is rendered: the footnotes with their
numbers and the parent of every node. A rule may read it and nothing changes it.
-/

namespace Manuscript

/-- What is known about a document as a whole. -/
structure Context where
  document : Node
  footnotes : Footnote.Index
  parents : Parents

namespace Context

/-- What there is to know about a document. -/
def of (document : Node) : Context :=
  ⟨document, Footnote.Index.ofRoot document, Parents.ofRoot document⟩

/-- Looks over a document: first its footnotes, then its parents. -/
def build {ε : Type} (document : Node) : Outcome ε Context := do
  let footnotes := Footnote.Index.ofRoot document
  let parents := Parents.ofRoot document
  Outcome.report footnotes.log
  Outcome.report parents.log
  return ⟨document, footnotes, parents⟩

theorem build_eq {ε : Type} (document : Node) :
    (build document : Outcome ε Context) =
      ⟨(of document).footnotes.log ++ (of document).parents.log, .ok (of document)⟩ := by
  simp [build, of, Outcome.report, Outcome.bind_ok, Outcome.pure_def]

/-- The number of a footnote. -/
def numberFor (context : Context) (key : Footnote.Key) : Except RenderError Nat :=
  match context.footnotes.number? key with
  | some number => .ok number
  | none => .error (.unnumbered key)

/-- What a reference prints: the label of its footnote, or its number. -/
def labelFor (context : Context) (key : Footnote.Key) : Except RenderError String :=
  match key with
  | .label label => .ok label
  | .anonymous _ => (context.numberFor key).map toString

end Context

end Manuscript
