import Manuscript.Options.Basic
import Manuscript.Text.Blank

/-!
# Tidy output

The last step of generic output: every line ends in a newline alone, runs of blank lines become a
single one if the options ask for it, and nothing blank is left at the end.
-/

namespace Manuscript.Markdown

/-- Turns every carriage return, with the newline it may precede, into a newline. -/
def unifyNewlines : List Char → List Char
  | [] => []
  | '\r' :: '\n' :: cs => '\n' :: unifyNewlines cs
  | '\r' :: cs => '\n' :: unifyNewlines cs
  | c :: cs => c :: unifyNewlines cs

/-- Leaves two newlines of every longer run; `seen` counts those of the run so far. -/
def collapseNewlines (seen : Nat) : List Char → List Char
  | [] => []
  | c :: cs =>
    if c = '\n' then
      if seen < 2 then '\n' :: collapseNewlines (seen + 1) cs else collapseNewlines seen cs
    else c :: collapseNewlines 0 cs

/-- The tidy form of a text. -/
def tidyChars (collapse : Bool) (cs : List Char) : List Char :=
  let unified := unifyNewlines cs
  Text.trimEnd (if collapse then collapseNewlines 0 unified else unified)

/-- The tidy form of generic output. -/
def tidy (o : MarkdownOptions) (s : String) : String :=
  String.ofList (tidyChars o.collapseBlankLines s.toList)

end Manuscript.Markdown
