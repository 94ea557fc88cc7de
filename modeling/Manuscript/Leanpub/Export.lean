import Manuscript.Leanpub.Attribute
import Manuscript.Leanpub.Block
import Manuscript.Leanpub.Link
import Manuscript.Leanpub.Rule
import Manuscript.Markdown.Convert

/-!
# Exporting a book

A book is written node by node, the children first. The rule for images reaches back: an image
shows the caption of the paragraph around it, so rendering an image renders that caption, which may
hold images in captioned paragraphs of its own. Unless a caption is shown inside itself, this ends
after as many captions as there are nodes; `transcodeWithin` is given that number and fails when it
is used up, which `transcode` hides.
-/

namespace Manuscript.Leanpub

/-- All that a rule may read. -/
structure Export where
  options : LeanpubOptions
  rules : RuleTable
  environment : Environment
  context : Context

namespace Export

/-- The rule for a node; that there is none is reported. -/
def ruleFor (x : Export) (n : Node) : Outcome RenderError Rule :=
  match x.rules.find? n.kind with
  | some rule => pure rule
  | none => do
    Outcome.report [.noRule n.kind]
    return .generic

/-- The node as generic Markdown. -/
def generic (x : Export) (n : Node) (fragments : List String) : Outcome RenderError String :=
  Markdown.convert x.options.toMarkdownOptions x.context n fragments

/-- Leaves a node out, or fails if nothing may be left out. -/
def drop (x : Export) (n : Node) (reason : DropReason) : Outcome RenderError String :=
  if x.options.failOnDropped then .fail (.dropped n.kind reason)
  else do
    Outcome.report [.dropped n.kind reason]
    return ""

/-- The caption that an image shows: that of the paragraph around it, unless the image stands in
the caption itself. -/
def captionAround (x : Export) (n : Node) : List Node :=
  match x.context.parents.enclosingBlock? n with
  | some block =>
    match block.body with
    | .paragraph _ caption =>
      if (walk caption).any (·.key == n.key) then [] else caption
    | _ => []
  | none => []

/-- Writes a link by its target; `renderCaption` renders the caption of an image. -/
def link (x : Export) (renderCaption : List Node → Outcome RenderError String) (n : Node)
    (target : Target) (description : String) : Outcome RenderError String :=
  match linkUse x.options target with
  | .crossReference => pure (crossReference target description)
  | .image => do
    let caption ← renderCaption (x.captionAround n)
    return inlineImage (imageAddress x.environment target) caption
  | .external => pure (externalLink target description)
  | .description => pure description
  | .nothing => x.drop n (.unsupportedLink target.scheme)

/-- Writes a node by a rule, whatever its kind is. -/
def apply (x : Export) (renderCaption : List Node → Outcome RenderError String) (rule : Rule)
    (n : Node) (fragments : List String) : Outcome RenderError String :=
  match rule with
  | .codeBlock => .ofExcept do
    let language ← n.language
    return codeBlock (language.getD "") (← n.contentWith "split")
  | .literalBlock => .ofExcept do
    return literalBlock (← n.contentWith "split")
  | .heading => do
    let heading ← x.generic n fragments
    return anchored (← .ofExcept n.identifier) heading
  | .omitDefinition => pure ""
  | .suppress => x.drop n .unsupported
  | .link => do
    x.link renderCaption n (← .ofExcept n.target) (String.join fragments)
  | .footnoteReference => .ofExcept do
    let label ← n.identifier
    (x.context.labelFor (Footnote.keyOf label n.key)).map Markdown.footnoteReference
  | .mathInline => .ofExcept do
    return mathInline (← n.contentWith "replace")
  | .plainText => .ofExcept n.plainContent
  | .generic => x.generic n fragments
  | .own _ write => pure (write x.context n fragments)

/-- Writes a node by its rule. -/
def convert (x : Export) (renderCaption : List Node → Outcome RenderError String) (n : Node)
    (fragments : List String) : Outcome RenderError String := do
  x.apply renderCaption (← x.ruleFor n) n fragments

/-- Writes a node and everything below it, showing captions within captions to a given depth. -/
def transcodeWithin (x : Export) : Nat → Node → Outcome RenderError String
  | 0 => Node.fold (x.convert fun caption =>
      if caption.isEmpty then pure "" else .fail .captionCycle)
  | depth + 1 => Node.fold (x.convert (renderNodes (x.transcodeWithin depth)))

/-- The number of nodes that may have a caption. -/
def captionDepth (x : Export) : Nat := x.context.parents.entries.length + 1

/-- Writes a node and everything below it. -/
def transcode (x : Export) : Node → Outcome RenderError String := x.transcodeWithin x.captionDepth

/-- Looks over a document that is to be exported. -/
def ofDocument (options : LeanpubOptions) (rules : RuleTable) (environment : Environment)
    (document : Node) : Outcome RenderError Export := do
  return ⟨options, rules, environment, ← Context.build document⟩

theorem ofDocument_result (options : LeanpubOptions) (rules : RuleTable)
    (environment : Environment) (document : Node) :
    (ofDocument options rules environment document).result =
      .ok ⟨options, rules, environment, Context.of document⟩ := by
  rw [ofDocument, Context.build_eq]
  rfl

end Export

end Manuscript.Leanpub
