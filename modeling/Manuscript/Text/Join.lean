/-!
# Joining fragments

Empty fragments take no part when fragments are set apart from each other: no separator is doubled,
leading or trailing on their account.
-/

namespace Manuscript.Text

/-- Sets the fragments that are not empty apart by a separator. -/
def joinNonempty (separator : String) (fragments : List String) : String :=
  separator.intercalate (fragments.filter fun s => !s.isEmpty)

/-- Sets blocks apart by a blank line. -/
def joinBlocks (fragments : List String) : String := joinNonempty "\n\n" fragments

end Manuscript.Text
