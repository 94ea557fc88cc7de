import Manuscript.Outcome
import Manuscript.Path.Absolute
import Manuscript.Text.Encoding

/-!
# Files and directories

A store holds directories and files by their places, which are the names on the way from the root.
A path leads there from the root or, if it is relative, from the current directory. A file is opened
for writing first, which creates it or empties it, and its content is written then. Opening fails,
and changes nothing, when the path has no name that a system takes, when the way to the file does
not exist, leads through a file, or ends at a directory, and when a name on the way or the path as a
whole is too long. A text that cannot be encoded fails after that, and leaves the file empty.
-/

namespace Manuscript

/-- A name as a system knows it. -/
abbrev Name := List UInt8

/-- The names on the way to a file or directory. -/
abbrev Place := List Name

/-- Why a file cannot be opened for writing. -/
inductive FileFault where
  | missing | notDirectory | isDirectory | nameTooLong
deriving DecidableEq, Repr

/-- A fault with the path that led to it. -/
structure FileError where
  fault : FileFault
  path : Path
deriving DecidableEq, Repr

namespace FileError

def message (e : FileError) : String :=
  let reason := match e.fault with
    | .missing => "[Errno 2] No such file or directory: "
    | .notDirectory => "[Errno 20] Not a directory: "
    | .isDirectory => "[Errno 21] Is a directory: "
    | .nameTooLong => "[Errno 36] File name too long: "
  reason ++ Text.quote e.path.toString

end FileError

/-- Why a text cannot be written to a path. -/
inductive WriteError where
  /-- The path cannot be encoded. -/
  | name (e : EncodeError)
  /-- The path has a null character in it. -/
  | nullCharacter
  /-- The file cannot be opened. -/
  | file (e : FileError)
  /-- The text cannot be encoded. -/
  | text (e : EncodeError)
deriving DecidableEq, Repr

namespace WriteError

def message : WriteError → String
  | name e => e.message
  | nullCharacter => "embedded null byte"
  | file e => e.message
  | text e => e.message

end WriteError

/-- The directories and files there are; the root is always a directory. -/
structure Store where
  directories : List Place
  files : List (Place × ByteArray)

namespace Store

def isDirectory (store : Store) (place : Place) : Bool :=
  place.isEmpty || store.directories.contains place

def isFile (store : Store) (place : Place) : Bool := store.files.any fun file => file.1 == place

/-- The content of a file. -/
def read? (store : Store) (place : Place) : Option ByteArray := store.files.lookup place

/-- The name that leads to the directory above. -/
def above : Name := [0x2E, 0x2E]

/-- Where a name leads from a directory. -/
def enter (place : Place) (name : Name) : Place :=
  if name = above then place.dropLast else place ++ [name]

/-- Where a way leads. -/
def follow (place : Place) (names : List Name) : Place := names.foldl enter place

/-- The most bytes that a name may take. -/
def maxName : Nat := 255

/-- The most bytes that a path may take. -/
def maxPath : Nat := 4095

/-- The place of a file that can be opened, found by going from a directory along some names. -/
def locate (store : Store) (place : Place) : List Name → Except FileFault Place
  | [] => .error .isDirectory
  | name :: names =>
    let next := enter place name
    if maxName < name.length then .error .nameTooLong
    else if names.isEmpty then
      if store.isDirectory next then .error .isDirectory else .ok next
    else if store.isDirectory next then locate store next names
    else if store.isFile next then .error .notDirectory
    else .error .missing

/-- The store with a file in place of whatever file was there. -/
def put (store : Store) (place : Place) (content : ByteArray) : Store :=
  if store.isFile place then
    { store with
      files := store.files.map fun file => if file.1 == place then (place, content) else file }
  else { store with files := store.files ++ [(place, content)] }

end Store

/-- The place that the names of a path start from: the root, or the current directory. -/
def Environment.start (environment : Environment) (encoding : Encoding) (path : Path) :
    Except EncodeError Place :=
  match path.anchor with
  | .relative =>
    Store.follow [] <$> (Path.ofString environment.directory).names.mapM encoding.encodeName
  | _ => .ok []

namespace Store

/-- The place of a file that is to be opened for writing. -/
def target (store : Store) (encoding : Encoding) (environment : Environment) (path : Path) :
    Except WriteError Place := do
  let bytes ← (encoding.encodeName path.toString).mapError .name
  require (!bytes.contains 0) .nullCharacter
  require (bytes.length ≤ maxPath) (.file ⟨.nameTooLong, path⟩)
  let start ← (environment.start encoding path).mapError .name
  let names ← (path.names.mapM encoding.encodeName).mapError .name
  require (store.isDirectory start) (.file ⟨.missing, path⟩)
  (store.locate start names).mapError fun fault => .file ⟨fault, path⟩

/-- Writes a text to a file. The store that comes out is the one there is afterwards, also after a
failure. -/
def write (store : Store) (encoding : Encoding) (environment : Environment) (path : Path)
    (s : String) : Except WriteError Unit × Store :=
  match store.target encoding environment path with
  | .error e => (.error e, store)
  | .ok place =>
    let opened := store.put place .empty
    match encoding.encode s with
    | .error e => (.error (.text e), opened)
    | .ok content => (.ok (), opened.put place content)

end Store

end Manuscript
