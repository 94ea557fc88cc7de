/-!
# Kinds of nodes

Every node of a document is of one of twenty-nine kinds. Fifteen are blocks, which stand apart from
each other in the output, and fourteen are inline, which run on in a line. A kind's name is what
messages call it.
-/

namespace Manuscript

/-- The kinds of nodes, blocks first. -/
inductive Kind where
  | document | heading | paragraph | codeBlock | literalBlock | blockQuote | list | listItem
  | table | tableRow | tableCell | thematicBreak | rawBlock | footnoteDefinition | mathBlock
  | text | emphasis | strong | code | link | image | lineBreak
  | strikethrough | underline | superscript | subscript
  | rawInline | footnoteReference | mathInline
deriving DecidableEq, Repr

namespace Kind

/-- Every kind once, in the order of its declaration. -/
def all : List Kind :=
  [document, heading, paragraph, codeBlock, literalBlock, blockQuote, list, listItem,
   table, tableRow, tableCell, thematicBreak, rawBlock, footnoteDefinition, mathBlock,
   text, emphasis, strong, code, link, image, lineBreak,
   strikethrough, underline, superscript, subscript,
   rawInline, footnoteReference, mathInline]

theorem mem_all (k : Kind) : k ∈ all := by cases k <;> decide

/-- The name of a kind in messages. -/
def name : Kind → String
  | document => "Document" | heading => "Heading" | paragraph => "Paragraph"
  | codeBlock => "CodeBlock" | literalBlock => "LiteralBlock" | blockQuote => "BlockQuote"
  | list => "List" | listItem => "ListItem" | table => "Table" | tableRow => "TableRow"
  | tableCell => "TableCell" | thematicBreak => "ThematicBreak" | rawBlock => "RawBlock"
  | footnoteDefinition => "FootnoteDefinition" | mathBlock => "MathBlock" | text => "Text"
  | emphasis => "Emphasis" | strong => "Strong" | code => "Code" | link => "Link"
  | image => "Image" | lineBreak => "LineBreak" | strikethrough => "Strikethrough"
  | underline => "Underline" | superscript => "Superscript" | subscript => "Subscript"
  | rawInline => "RawInline" | footnoteReference => "FootnoteReference"
  | mathInline => "MathInline"

/-- Inline nodes run on in a line; all others are blocks. -/
def isInline : Kind → Bool
  | text | emphasis | strong | code | link | image | lineBreak | strikethrough | underline
  | superscript | subscript | rawInline | footnoteReference | mathInline => true
  | _ => false

end Kind

end Manuscript
