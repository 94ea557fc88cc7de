import Manuscript.Options.Basic
import Manuscript.RenderError

/-!
# Fenced code

A fence is longer than every run of its character in the content, and at least as long as the
options ask. The options may ask for more than a text can hold; `fenced?` refuses that.
-/

namespace Manuscript.Markdown

/-- The length of the longest run of a character, where a run of `run` of them goes on and the runs
before it had at most `best`. -/
def longestRunFrom (c : Char) (run best : Nat) : List Char → Nat
  | [] => max best run
  | d :: ds =>
    if d = c then longestRunFrom c (run + 1) best ds else longestRunFrom c 0 (max best run) ds

/-- The length of the longest run of a character. -/
def longestRun (c : Char) (cs : List Char) : Nat := longestRunFrom c 0 0 cs

/-- The length of the fence for a content. -/
def fenceLength (o : MarkdownOptions) (content : String) : Nat :=
  max o.fenceMin (longestRun o.fence.char content.toList + 1)

/-- The fence for a content. -/
def fenceFor (o : MarkdownOptions) (content : String) : String :=
  String.ofList (List.replicate (fenceLength o content) o.fence.char)

/-- A content between fences, with an information string after the opening one. -/
def fenced (o : MarkdownOptions) (content info : String) : String :=
  let fence := fenceFor o content
  fence ++ info ++ "\n" ++ Text.endLine content ++ fence

/-- A content between fences, unless these would be too long. -/
def fenced? (o : MarkdownOptions) (content info : String) : Except RenderError String := do
  (Text.checkLength (fenceLength o content)).mapError .fenceTooLong
  return fenced o content info

end Manuscript.Markdown
