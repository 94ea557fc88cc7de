import Manuscript.Text.Quoted

/-!
# Paths

A path is a sequence of names after an anchor: nothing, one slash, or exactly two, which systems may
tell from one. Empty names and single dots vanish when a path is read; double dots stay until the
path is resolved.
-/

namespace Manuscript

/-- Where a path begins. -/
inductive Anchor where
  | relative | root | doubleRoot
deriving DecidableEq, Repr

def Anchor.text : Anchor → String
  | relative => ""
  | root => "/"
  | doubleRoot => "//"

/-- An anchor and the names after it. -/
structure Path where
  anchor : Anchor
  names : List String
deriving DecidableEq, Repr

/-- Why a path cannot be given another extension. -/
inductive PathError where
  | invalidSuffix (suffix : String)
  | noName (path : Path)
deriving DecidableEq, Repr

namespace Path

/-- The pieces of a text between slashes. -/
def pieces : List Char → List (List Char)
  | [] => [[]]
  | c :: cs =>
    if c = '/' then [] :: pieces cs
    else match pieces cs with
      | [] => [[c]]
      | piece :: others => (c :: piece) :: others

/-- The anchor of a text: two slashes count only if no third one follows. -/
def anchorOf : List Char → Anchor
  | '/' :: '/' :: '/' :: _ => .root
  | '/' :: '/' :: _ => .doubleRoot
  | '/' :: _ => .root
  | _ => .relative

/-- Reads a path. -/
def ofString (s : String) : Path :=
  ⟨anchorOf s.toList,
    ((pieces s.toList).map String.ofList).filter fun name => name ≠ "" && name ≠ "."⟩

/-- Writes a path; one without anchor and names is the current directory. -/
def toString (path : Path) : String :=
  let text := path.anchor.text ++ "/".intercalate path.names
  if text.isEmpty then "." else text

/-- The last name of a path. -/
def name? (path : Path) : Option String := path.names.getLast?

/-- What comes before the last name. -/
def parent (path : Path) : Path := { path with names := path.names.dropLast }

/-- Splits a text at its last dot, which belongs to neither part. -/
def splitLastDot (cs : List Char) : Option (List Char × List Char) :=
  if cs.contains '.' then
    let after := (cs.reverse.takeWhile (· ≠ '.')).reverse
    some (cs.take (cs.length - after.length - 1), after)
  else none

/-- A name without its suffix: what comes before the last dot, unless the dot is the first or the
last character of the name. -/
def stem (name : String) : String :=
  match splitLastDot name.toList with
  | some (before, after) =>
    if before.isEmpty || after.isEmpty then name else String.ofList before
  | none => name

/-- A suffix is empty, or a dot with something after it, and holds no slash. -/
def isSuffix (s : String) : Bool :=
  !s.toList.contains '/' && (s.isEmpty || (s.toList.head? = some '.' && s ≠ "."))

/-- The same path with another suffix in place of the last name's own. -/
def withSuffix (path : Path) (suffix : String) : Except PathError Path :=
  if !isSuffix suffix then .error (.invalidSuffix suffix)
  else match path.name? with
    | none => .error (.noName path)
    | some name => .ok { path with names := path.names.dropLast ++ [stem name ++ suffix] }

end Path

namespace PathError

def message : PathError → String
  | invalidSuffix suffix => "Invalid suffix " ++ Text.quote suffix
  | noName path => "PosixPath(" ++ Text.quote path.toString ++ ") has an empty name"

end PathError

end Manuscript
