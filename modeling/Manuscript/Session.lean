import Manuscript.Renderer

/-!
# Sessions

A session is a renderer at work on one document. All that can be asked about a document while it is
rendered is asked of the session: the rule for a node, what a node becomes, and the footnotes.
-/

namespace Manuscript

/-- A renderer at work on a document. -/
inductive Session where
  | markdown (options : MarkdownOptions) (imageExtensions : List String) (context : Context)
  | leanpub (x : Leanpub.Export)

namespace Session

/-- Puts a renderer to work on a document. -/
def start {ε : Type} (renderer : Renderer) (environment : Environment) (document : Node) :
    Outcome ε Session := do
  let context ← Context.build document
  return match renderer with
    | .markdown options extensions => markdown options extensions context
    | .leanpub options rules => leanpub ⟨options, rules, environment, context⟩

def context : Session → Context
  | markdown _ _ context => context
  | leanpub x => x.context

/-- The image extensions in force, in lower case. -/
def imageExtensions : Session → List String
  | markdown _ extensions _ => extensions.map Text.lowercase
  | leanpub x => x.options.imageExtensions.map Text.lowercase

/-- The rule for a node. Generic Markdown has one for all of them. -/
def ruleFor : Session → Node → Outcome RenderError Leanpub.Rule
  | markdown .., _ => pure .generic
  | leanpub x, n => x.ruleFor n

/-- Writes a node as generic Markdown from given fragments. -/
def generic : Session → Node → List String → Outcome RenderError String
  | markdown options _ context, n, fragments => Markdown.convert options context n fragments
  | leanpub x, n, fragments => x.generic n fragments

/-- Writes a node and everything below it. -/
def transcode : Session → Node → Outcome RenderError String
  | markdown options _ context, n => Markdown.transcode options context n
  | leanpub x, n => x.transcode n

/-- Writes a node by its rule from given fragments. -/
def convert : Session → Node → List String → Outcome RenderError String
  | markdown options _ context, n, fragments => Markdown.convert options context n fragments
  | leanpub x, n, fragments => x.convert (renderNodes x.transcode) n fragments

/-- Writes siblings. -/
def renderNodes (session : Session) (nodes : List Node) : Outcome RenderError String :=
  Manuscript.renderNodes session.transcode nodes

/-- The definitions of all footnotes. -/
def footnoteDefinitions (session : Session) : Outcome RenderError String :=
  session.context.footnotes.renderDefinitions session.transcode

/-- A body with the footnote section after it. -/
def appendFootnotes (session : Session) (body : String) : Outcome RenderError String :=
  session.context.footnotes.appendSection session.transcode body

end Session

end Manuscript
