import Manuscript.Markdown.Escape
import Manuscript.Markdown.Fence
import Manuscript.Markdown.Grid
import Manuscript.Markdown.Listing
import Manuscript.Markdown.Tidy
import Manuscript.Document.Fold
import Manuscript.Text.Lowercase

/-!
# Generic Markdown

Every kind of node as plain Markdown. `convert` writes one node from the fragments of its children,
`transcode` a node with everything below it, and `render` a whole document.
-/

namespace Manuscript.Markdown

open Text

/-- Formats of raw markup that are Markdown already. -/
def isPassedThrough (format : String) : Bool :=
  ["html", "markdown", "md"].contains (lowercase format)

/-- A heading of a level moved by the options, but never beyond the six there are. -/
def heading (o : MarkdownOptions) (level : Level) (content : String) : String :=
  let depth := (max 1 (min 6 (level.val + o.levelOffset))).toNat
  String.ofList (List.replicate depth '#') ++ " " ++ content

/-- Content between a tag and its end. -/
def tagged (tag content : String) : String := "<" ++ tag ++ ">" ++ content ++ "</" ++ tag ++ ">"

/-- Content between two equal marks. -/
def enclosed (mark content : String) : String := mark ++ content ++ mark

/-- A style that plain Markdown lacks. -/
def extended (mode : InlineMode) (tag mark content : String) : String :=
  match mode with
  | .ignore => content
  | .markdown => enclosed mark content
  | .html => tagged tag content

def styled (o : MarkdownOptions) (style : Style) (content : String) : String :=
  match style with
  | .emphasis => enclosed o.emphasis.text content
  | .strong => enclosed "**" content
  | .strikethrough => enclosed "~~" content
  | .underline => extended o.underline "u" "__" content
  | .superscript => extended o.superscript "sup" "^" content
  | .subscript => extended o.subscript "sub" "~" content

/-- Code in a line; two backticks enclose a content that holds one. -/
def codeSpan (content : String) : String :=
  enclosed (if content.toList.contains '`' then "``" else "`") content

/-- An address with a title after it, unless the title is empty. -/
def addressed (url : String) (title : Option String) : String :=
  match title.filter fun s => !s.isEmpty with
  | some title => "(" ++ url ++ " \"" ++ title ++ "\")"
  | none => "(" ++ url ++ ")"

/-- A link; one without a description shows its address. -/
def link (target : Target) (description : String) (title : Option String) : String :=
  if description.isEmpty then "<" ++ target.url ++ ">"
  else "[" ++ description ++ "]" ++ addressed target.url title

def image (url alt : String) (title : Option String) : String :=
  "![" ++ escapeOnly ['[', ']'] alt ++ "]" ++ addressed url title

/-- A footnote reference by the label it prints. -/
def footnoteReference (label : String) : String := "[^" ++ label ++ "]"

/-- A footnote definition under its label, all lines after the first one indented. -/
def footnoteDefinition (label body : String) : String :=
  "[^" ++ label ++ "]: " ++ indentContinuation 4 body

/-- One node as Markdown, from the fragments of its children. -/
def convert (o : MarkdownOptions) (context : Context) (n : Node) (fragments : List String) :
    Outcome RenderError String :=
  let content := String.join fragments
  match n.body with
  | .document _ => pure (joinBlocks fragments)
  | .heading level _ _ => pure (heading o level content)
  | .paragraph .. => pure content
  | .codeBlock language code => .ofExcept (fenced? o code (language.getD ""))
  | .literalBlock _ literal => .ofExcept (fenced? o literal "")
  | .blockQuote _ => pure (prefixLines "> " (joinBlocks fragments))
  | .list marking tight _ => pure (listing o (context.parents.listDepth n) marking tight fragments)
  | .listItem task _ => pure (listItem task fragments)
  | .table _ _ alignments => .ofExcept (grid n.children alignments fragments)
  | .tableRow _ => pure (row fragments)
  | .tableCell _ => pure (escapeOnly ['|'] content)
  | .thematicBreak => pure "---"
  | .rawBlock format markup =>
    if isPassedThrough format then pure markup
    else do
      Outcome.report [.droppedRaw format]
      return ""
  | .footnoteDefinition label _ => pure (footnoteDefinition label (joinBlocks fragments))
  | .mathBlock formula => pure ("$$\n" ++ endLine formula ++ "$$")
  | .text s => pure (if o.escapeSpecial then escape s else s)
  | .styled style _ => pure (styled o style content)
  | .code s => pure (codeSpan s)
  | .link target _ title => pure (link target content title)
  | .image url alt title => pure (image url alt title)
  | .lineBreak soft => pure (if soft then "\n" else "  \n")
  | .rawInline format markup => pure (if isPassedThrough format then markup else "")
  | .footnoteReference label _ =>
    .ofExcept ((context.labelFor (Footnote.keyOf label n.key)).map footnoteReference)
  | .mathInline formula => pure ("$" ++ formula ++ "$")

/-- A node with everything below it as Markdown. -/
def transcode (o : MarkdownOptions) (context : Context) (n : Node) : Outcome RenderError String :=
  n.fold (convert o context)

/-- A whole document as tidy Markdown. -/
def render (o : MarkdownOptions) (document : Node) : Outcome RenderError String := do
  let context ← Context.build document
  return tidy o (← transcode o context document)

end Manuscript.Markdown
