import Manuscript.Text.Ranges

/-!
# Blank characters

What counts as white space at the end of a text: the separators of Unicode, the control characters
that break lines, and the four information separators.
-/

namespace Manuscript.Text

/-- The ranges of white space. -/
def blankRanges : Ranges :=
  [(0x9, 0xd), (0x1c, 0x20), (0x85, 0x85), (0xa0, 0xa0), (0x1680, 0x1680), (0x2000, 0x200a),
   (0x2028, 0x2029), (0x202f, 0x202f), (0x205f, 0x205f), (0x3000, 0x3000)]

/-- White space in the widest sense. -/
def isBlank (c : Char) : Bool := blankRanges.has c

/-- A text without the white space at its end. -/
def trimEnd (cs : List Char) : List Char := (cs.reverse.dropWhile isBlank).reverse

/-- What trimming removes is white space. -/
theorem exists_eq_trimEnd_append (cs : List Char) :
    ∃ tail, cs = trimEnd cs ++ tail ∧ ∀ c ∈ tail, isBlank c = true := by
  refine ⟨(cs.reverse.takeWhile isBlank).reverse, ?_, ?_⟩
  · simp [trimEnd, ← List.reverse_append]
  · intro c hc
    exact List.all_eq_true.1 List.all_takeWhile c (List.mem_reverse.1 hc)

end Manuscript.Text
