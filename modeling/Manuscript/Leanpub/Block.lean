import Manuscript.Text.Indentation

/-!
# Blocks of code and text

Code and literal text stand between fences of eight tildes, free of the indentation that their
lines share. Literal text is moved into an aside as a whole, its header and fences included.
-/

namespace Manuscript.Leanpub

open Text

/-- The fence of a book. -/
def fence : String := "~~~~~~~~"

/-- A content between fences under a header line. -/
def fencedUnder (header content : String) : String :=
  header ++ "\n" ++ fence ++ "\n" ++ endLine (removeIndentation content) ++ fence

/-- Source code under its language, which may be empty. -/
def codeBlock (language code : String) : String :=
  fencedUnder ("\x7blang=\"" ++ language ++ "\"\x7d") code

/-- Literal text as an aside without line numbers. -/
def literalBlock (literal : String) : String :=
  prefixLines "A> " (fencedUnder "\x7blinenos=off\x7d" literal)

/-- A heading under the anchor line of its identifier, if it has one. -/
def anchored (identifier : Option String) (heading : String) : String :=
  match identifier.filter fun s => !s.isEmpty with
  | some identifier => "\x7b#" ++ identifier ++ "\x7d\n" ++ heading
  | none => heading

/-- Removes every backslash that a given character follows, together with that character. -/
def removeEscaped (d : Char) : List Char → List Char
  | [] => []
  | [c] => [c]
  | c :: c' :: cs =>
    if c = '\\' && c' = d then removeEscaped d cs else c :: removeEscaped d (c' :: cs)

/-- Removes the delimiters that display mathematics brings along: first all opening brackets, then,
from what is left, all closing ones. -/
def stripDelimiters (cs : List Char) : List Char := removeEscaped ']' (removeEscaped '[' cs)

/-- Mathematics in a line. -/
def mathInline (formula : String) : String :=
  "\x7b$$\x7d" ++ String.ofList (stripDelimiters formula.toList) ++ "\x7b/$$\x7d"

end Manuscript.Leanpub
