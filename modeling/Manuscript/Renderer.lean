import Manuscript.Leanpub.Render

/-!
# Renderers

The two ways to write a document: generic Markdown and a Leanpub book. A renderer is made from
options of its own class or one that extends it.
-/

namespace Manuscript

/-- What may be passed as options. -/
inductive OptionsArgument where
  | none
  | options (o : Options)
  /-- A value that is not options at all, by the name of its type. -/
  | other (typeName : String)
deriving DecidableEq, Repr

/-- The two ways to write a document. -/
inductive Format where
  | markdown | leanpub
deriving DecidableEq, Repr

namespace Format

def name : Format → String
  | markdown => "markdown"
  | leanpub => "leanpub"

/-- The class of options that a format takes. -/
def optionsClass : Format → OptionsClass
  | markdown => .markdown
  | leanpub => .leanpub

end Format

/-- Options that do not fit the format. -/
structure WrongOptions where
  format : Format
  received : String
deriving DecidableEq, Repr

namespace WrongOptions

def expected (e : WrongOptions) : String := e.format.optionsClass.name

def message (e : WrongOptions) : String :=
  e.format.name ++ " expected options of type '" ++ e.expected ++ "' but received '" ++
    e.received ++ "'."

end WrongOptions

/-- A way to write documents with its options. -/
inductive Renderer where
  | markdown (options : MarkdownOptions) (imageExtensions : List String)
  | leanpub (options : LeanpubOptions) (rules : Leanpub.RuleTable)

namespace Renderer

/-- A renderer of generic Markdown. -/
def markdown? : OptionsArgument → Except WrongOptions Renderer
  | .none => .ok (markdown .standard defaultImageExtensions)
  | .options o =>
    match o.markdown? with
    | some options => .ok (markdown options o.imageExtensions)
    | Option.none => .error ⟨.markdown, o.optionsClass.name⟩
  | .other typeName => .error ⟨.markdown, typeName⟩

/-- A renderer of books, with entries put into the table of rules. -/
def leanpub? (entries : List (Leanpub.Scope × Option Leanpub.Rule)) :
    OptionsArgument → Except WrongOptions Renderer
  | .none => .ok (leanpub .standard (.setAll .leanpub entries))
  | .options o =>
    match o.leanpub? with
    | some options => .ok (leanpub options (.setAll .leanpub entries))
    | Option.none => .error ⟨.leanpub, o.optionsClass.name⟩
  | .other typeName => .error ⟨.leanpub, typeName⟩

/-- A renderer for a format. -/
def create (format : Format) (entries : List (Leanpub.Scope × Option Leanpub.Rule))
    (argument : OptionsArgument) : Except WrongOptions Renderer :=
  match format with
  | .markdown => markdown? argument
  | .leanpub => leanpub? entries argument

/-- A whole document in the renderer's format. -/
def render (renderer : Renderer) (environment : Environment) (document : Node) :
    Outcome RenderError String :=
  match renderer with
  | markdown options _ => Markdown.render options document
  | leanpub options rules => Leanpub.render options rules environment document

end Renderer

end Manuscript
