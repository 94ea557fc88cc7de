/-!
# Sets of characters as ranges

The character classes of this library are data of the Unicode standard, version 14. Each is a list
of inclusive ranges of code points in increasing order.
-/

namespace Manuscript.Text

/-- Inclusive ranges of code points. -/
abbrev Ranges := List (Nat × Nat)

namespace Ranges

/-- A character belongs to the ranges when one of them spans its code point. -/
def has (ranges : Ranges) (c : Char) : Bool :=
  ranges.any fun (first, last) => first ≤ c.toNat && c.toNat ≤ last

end Ranges

end Manuscript.Text
