import Manuscript.Text.Lines

/-!
# Capacity

A length that is asked for may be any whole number, but lengths are counted in 64 bits.
`checkLength` refuses a length that cannot be counted before anything of that length is made; one
below zero asks for nothing. Memory is taken to be large enough for every length that is counted.
-/

namespace Manuscript.Text

/-- A length that no text can have. -/
structure TooLong where
  length : Int
deriving DecidableEq, Repr

/-- The lengths that can be counted. -/
def isCountable (length : Int) : Bool :=
  -0x8000000000000000 ≤ length && length < 0x8000000000000000

/-- Refuses a length that no text can have. -/
def checkLength (length : Int) : Except TooLong Unit :=
  if isCountable length then .ok () else .error ⟨length⟩

def TooLong.message (_ : TooLong) : String := "cannot fit 'int' into an index-sized integer"

theorem isCountable_iff {length : Int} :
    isCountable length = true ↔ -0x8000000000000000 ≤ length ∧ length < 0x8000000000000000 := by
  simp [isCountable]

theorem checkLength_eq_ok_iff {length : Int} :
    checkLength length = .ok () ↔ isCountable length = true := by
  unfold checkLength
  split <;> simp_all

/-- Moves every line but the first to the right, unless no text is that wide. -/
def indentContinuation? (width : Int) (s : String) : Except TooLong String := do
  checkLength width
  return indentContinuation width s

end Manuscript.Text
