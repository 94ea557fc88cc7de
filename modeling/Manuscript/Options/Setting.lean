import Manuscript.Text.Quoted

/-!
# Settings

A value given for an option. Nothing makes it one of the type that the option is meant to have, so
it may be of any built-in type, and is asked only what the checks of options ask: what it is shown
as, whether it counts as nothing, whether it is below a number, and which items it has.
-/

namespace Manuscript

/-- The size of a number that need not be whole. One that is undefined is not below any other. -/
inductive Size where
  | finite (value : Rat)
  | infinite (negative : Bool)
  | undefined
deriving DecidableEq, Repr

def Size.isBelow : Size → Int → Bool
  | finite value, bound => value < bound
  | infinite negative, _ => negative
  | undefined, _ => false

/-- A value given for an option. -/
inductive Setting where
  | none
  | bool (value : Bool)
  | int (value : Int)
  | float (shown : String) (size : Size)
  | text (value : String)
  | tuple (items : List Setting)
  /-- A list, a set, bytes or anything else with items that is no tuple. -/
  | collection (typeName shown : String) (items : List Setting)
  /-- A value that has neither an order nor items. -/
  | other (typeName shown : String) (isNothing : Bool)
deriving Repr

namespace Setting

def typeName : Setting → String
  | none => "NoneType"
  | bool _ => "bool"
  | int _ => "int"
  | float .. => "float"
  | text _ => "str"
  | tuple _ => "tuple"
  | collection typeName .. => typeName
  | other typeName .. => typeName

mutual

/-- How a value is shown in a message. A tuple of one item keeps its comma. -/
def shown : Setting → String
  | none => "None"
  | bool true => "True"
  | bool false => "False"
  | int value => toString value
  | float shown _ => shown
  | text value => Text.quote value
  | tuple [item] => "(" ++ item.shown ++ ",)"
  | tuple items => "(" ++ ", ".intercalate (shownAll items) ++ ")"
  | collection _ shown _ => shown
  | other _ shown _ => shown

def shownAll : List Setting → List String
  | [] => []
  | item :: items => item.shown :: shownAll items

end

/-- The values that count as nothing: none, false, zero and whatever is empty. -/
def isNothing : Setting → Bool
  | none => true
  | bool value => !value
  | int value => value == 0
  | float _ size => size == .finite 0
  | text value => value.isEmpty
  | tuple items => items.isEmpty
  | collection _ _ items => items.isEmpty
  | other _ _ isNothing => isNothing

/-- A whole number; a truth value counts as one or zero. -/
def int? : Setting → Option Int
  | int value => some value
  | bool value => some (if value then 1 else 0)
  | _ => Option.none

def bool? : Setting → Option Bool
  | bool value => some value
  | _ => Option.none

def text? : Setting → Option String
  | text value => some value
  | _ => Option.none

/-- Whether a number is below a whole one; other values have no order among numbers. -/
def isBelow? (value : Setting) (bound : Int) : Option Bool :=
  match value with
  | float _ size => some (size.isBelow bound)
  | _ => value.int?.map fun n => n < bound

/-- The items of a value that has some or could have some; those of a text are its characters. -/
def items? : Setting → Option (List Setting)
  | text value => some (value.toList.map fun c => text (String.singleton c))
  | tuple items => some items
  | collection _ _ items => some items
  | _ => Option.none

/-- The number of items. -/
def length? (value : Setting) : Option Nat := value.items?.map List.length

/-- The items of a tuple, if all of them are texts. -/
def texts? : Setting → Option (List String)
  | tuple items => items.mapM text?
  | _ => Option.none

/-- Whether a value is one of some texts. -/
def isAmong (value : Setting) (texts : List String) : Bool :=
  match value with
  | text s => texts.contains s
  | _ => false

end Setting

/-- Values given by the names of their options. -/
abbrev Settings := List (String × Setting)

end Manuscript
