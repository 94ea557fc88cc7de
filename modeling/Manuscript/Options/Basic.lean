import Manuscript.Options.Setting

/-!
# Options

Options come in three classes, each of which extends the one before: those of every renderer, those
of generic Markdown and those of a Leanpub book. The types admit valid values only, so that nothing
that reads options has to check them: there is always a bullet to choose, a fence always has three
characters, and an image extension never begins with a dot.
-/

namespace Manuscript

/-- The mark on both sides of emphasised text. -/
inductive EmphasisMark where
  | asterisk | underscore
deriving DecidableEq, Repr

def EmphasisMark.text : EmphasisMark → String
  | asterisk => "*"
  | underscore => "_"

/-- The character that fences code. -/
inductive FenceMark where
  | backtick | tilde
deriving DecidableEq, Repr

def FenceMark.char : FenceMark → Char
  | backtick => '`'
  | tilde => '~'

/-- What becomes of a style that plain Markdown cannot express. -/
inductive InlineMode where
  | html | markdown | ignore
deriving DecidableEq, Repr

def InlineMode.name : InlineMode → String
  | html => "html"
  | markdown => "markdown"
  | ignore => "ignore"

/-- What becomes of a link that a book cannot express. -/
inductive LinkMode where
  | drop | text
deriving DecidableEq, Repr

def LinkMode.name : LinkMode → String
  | drop => "drop"
  | text => "text"

/-- A file extension as it stands in the options: not empty and without the dot. -/
def IsExtension (s : String) : Prop := s.toList ≠ [] ∧ s.toList.head? ≠ some '.'

instance (s : String) : Decidable (IsExtension s) := inferInstanceAs (Decidable (_ ∧ _))

/-- The options of every renderer. -/
structure BaseOptions where
  failOnDropped : Bool := false
deriving DecidableEq, Repr

/-- The options of generic Markdown. -/
structure MarkdownOptions extends BaseOptions where
  escapeSpecial : Bool := true
  emphasis : EmphasisMark := .asterisk
  bullets : List Char := ['*', '-', '+']
  bullets_ne_nil : bullets ≠ [] := by decide
  fence : FenceMark := .backtick
  fenceMin : Nat := 3
  three_le_fenceMin : 3 ≤ fenceMin := by decide
  underline : InlineMode := .html
  superscript : InlineMode := .html
  subscript : InlineMode := .html
  collapseBlankLines : Bool := true
  levelOffset : Int := 0
deriving DecidableEq, Repr

/-- The options of generic Markdown unless something else is chosen. -/
def MarkdownOptions.standard : MarkdownOptions := {}

/-- The bullet of a list inside `depth` others. -/
def MarkdownOptions.bullet (o : MarkdownOptions) (depth : Nat) : Char :=
  o.bullets.get ⟨depth % o.bullets.length, Nat.mod_lt _ (List.length_pos_iff.2 o.bullets_ne_nil)⟩

/-- The image extensions of a book unless others are chosen. -/
def defaultImageExtensions : List String := ["jpeg", "jpg", "png", "gif", "svg"]

/-- The options of a Leanpub book. -/
structure LeanpubOptions extends MarkdownOptions where
  imageExtensions : List String := defaultImageExtensions
  isExtension : ∀ e ∈ imageExtensions, IsExtension e := by decide
  imageSchemes : List String := ["file", "http", "https"]
  externalSchemes : List String := ["http", "https", "ftp"]
  unsupportedLinks : LinkMode := .drop
deriving DecidableEq, Repr

/-- The options of a book unless something else is chosen. -/
def LeanpubOptions.standard : LeanpubOptions := {}

/-- The classes of options, each extending the one before. -/
inductive OptionsClass where
  | base | markdown | leanpub
deriving DecidableEq, Repr

def OptionsClass.name : OptionsClass → String
  | base => "BaseRendererOptions"
  | markdown => "MarkdownRendererOptions"
  | leanpub => "LeanpubRendererOptions"

/-- Options of any class. -/
inductive Options where
  | base (o : BaseOptions)
  | markdown (o : MarkdownOptions)
  | leanpub (o : LeanpubOptions)
deriving DecidableEq, Repr

namespace Options

def optionsClass : Options → OptionsClass
  | base _ => .base
  | markdown _ => .markdown
  | leanpub _ => .leanpub

/-- The options of a class unless something else is chosen. -/
def default : OptionsClass → Options
  | .base => base {}
  | .markdown => markdown .standard
  | .leanpub => leanpub .standard

/-- The Markdown options in options of their class or one that extends it. -/
def markdown? : Options → Option MarkdownOptions
  | base _ => none
  | markdown o => some o
  | leanpub o => some o.toMarkdownOptions

def leanpub? : Options → Option LeanpubOptions
  | leanpub o => some o
  | _ => none

/-- The image extensions in force; options without any choose the usual ones. -/
def imageExtensions : Options → List String
  | leanpub o => o.imageExtensions
  | _ => defaultImageExtensions

end Options

end Manuscript
