import Manuscript.Text.Alphanumeric

/-!
# Escaped text

Plain text as generic Markdown. A backslash goes before every backslash, backtick, asterisk, brace
and bracket, before a number sign at the very start, and before an underscore unless a letter or
number stands on both sides of it, so that `snake_case` stays as it is.
-/

namespace Manuscript.Markdown

/-- The characters that are escaped wherever they stand. -/
def alwaysEscaped : List Char := ['\\', '`', '*', '{', '}', '[', ']']

/-- A character needs a backslash between the given neighbours; none stands at the ends. -/
def needsEscape (before : Option Char) (c : Char) (after : Option Char) : Bool :=
  alwaysEscaped.contains c
    || (c == '#' && before.isNone)
    || (c == '_' && !(before.any Text.isAlphanumeric && after.any Text.isAlphanumeric))

/-- Escapes what follows the character `before`. -/
def escapeAfter (before : Option Char) : List Char → List Char
  | [] => []
  | c :: cs =>
    (if needsEscape before c cs.head? then ['\\', c] else [c]) ++ escapeAfter (some c) cs

/-- Text that reads as itself in Markdown. -/
def escape (s : String) : String := String.ofList (escapeAfter none s.toList)

/-- Puts a backslash before every character of a given set. -/
def escapeOnly (chars : List Char) (s : String) : String :=
  String.ofList (s.toList.flatMap fun c => if chars.contains c then ['\\', c] else [c])

end Manuscript.Markdown
