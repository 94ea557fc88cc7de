import Manuscript.Document.Node
import Manuscript.Options.Basic
import Manuscript.Path.Absolute
import Manuscript.Text.Lowercase

/-!
# Links

What a link becomes in a book depends on its target: a reference inside the book, an inline image,
a link to the outside, or nothing.
-/

namespace Manuscript.Leanpub

/-- What a link becomes. -/
inductive LinkUse where
  | crossReference | image | external | description | nothing
deriving DecidableEq, Repr

/-- The extension of a path: what follows its last dot. -/
def extension? (path : String) : Option String :=
  (Path.splitLastDot path.toList).map fun split => String.ofList split.2

/-- A path names an image when its extension is one of those given, whatever its case. -/
def isImagePath (extensions : List String) (path : String) : Bool :=
  match extension? path with
  | some extension => (extensions.map Text.lowercase).contains (Text.lowercase extension)
  | none => false

/-- What a link with this target becomes. -/
def linkUse (o : LeanpubOptions) (target : Target) : LinkUse :=
  if target.isCrossReference then .crossReference
  else if o.imageSchemes.contains target.scheme && isImagePath o.imageExtensions target.path then
    .image
  else if o.externalSchemes.contains target.scheme then .external
  else match o.unsupportedLinks with
    | .text => .description
    | .drop => .nothing

/-- Where the image of a link is found. A file's path is made absolute if it begins at the root or
at a home directory; all other targets keep their scheme. -/
def imageAddress (environment : Environment) (target : Target) : String :=
  if target.scheme ≠ "file" then target.uri
  else if target.path.toList.head? = some '/' || target.path.toList.head? = some '~' then
    (environment.absolute (environment.expandHome target.path)).toString
  else target.path

/-- A reference to a heading of the book. -/
def crossReference (target : Target) (description : String) : String :=
  "[" ++ (if description.isEmpty then target.path else description) ++ "](#" ++ target.path ++ ")"

/-- A link to the outside; one without a description shows its address. -/
def externalLink (target : Target) (description : String) : String :=
  if description.isEmpty then "<" ++ target.uri ++ ">"
  else "[" ++ description ++ "](" ++ target.uri ++ ")"

/-- An image under its caption. -/
def inlineImage (address caption : String) : String := "![" ++ caption ++ "](" ++ address ++ ")"

end Manuscript.Leanpub
