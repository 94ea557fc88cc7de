import Manuscript.Path.Basic

/-!
# Absolute paths

Where a path leads from the directory that an export runs in: a leading tilde is read as the
author's home, a relative path starts from the current directory, and double dots take back the
names before them. The current directory is known by its place below the one root, however its path
was written; only an absolute path keeps two leading slashes.
-/

namespace Manuscript

namespace Path

/-- One step of resolving: a double dot takes back the name before it. Above the root there is
nothing to take back, and a relative path may lead further up. -/
def resolveStep (anchored : Bool) (done : List String) (name : String) : List String :=
  if name = ".." then
    match done.getLast? with
    | none => if anchored then done else done ++ [name]
    | some last => if last = ".." then done ++ [name] else done.dropLast
  else done ++ [name]

/-- A path without double dots, but for those that lead up from a relative path's start. -/
def resolve (path : Path) : Path :=
  { path with names := path.names.foldl (resolveStep (path.anchor ≠ .relative)) [] }

end Path

/-- The place an export runs in: the author's home directory and the current one. -/
structure Environment where
  home : String
  directory : String
deriving DecidableEq, Repr

namespace Environment

/-- Reads a leading tilde as the home directory, if nothing or a slash follows it. The home's own
trailing slashes do not count, and an empty result is the root. A tilde before a name would stand
for the home of another author; no other author is known here, so that such a path stays as it
is. -/
def expandHome (environment : Environment) (path : String) : String :=
  match path.toList with
  | '~' :: rest =>
    if rest.isEmpty || rest.head? = some '/' then
      let home := (environment.home.toList.reverse.dropWhile (· = '/')).reverse
      let expanded := home ++ rest
      if expanded.isEmpty then "/" else String.ofList expanded
    else path
  | _ => path

/-- A path from the root on, resolved. One that is relative continues the way from the root to the
current directory. -/
def absolute (environment : Environment) (path : String) : Path :=
  let path := Path.ofString path
  match path.anchor with
  | .relative =>
    Path.resolve ⟨.root, (Path.ofString environment.directory).names ++ path.names⟩
  | _ => path.resolve

end Environment

end Manuscript
