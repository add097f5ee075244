import SentimentTree.Run.Problem
import SentimentTree.Text.Lines

/-! # Stored files

A record of files and directories, and how paths lead to them. A path is followed name by name from
the working directory or from the root, so the first name that leads nowhere decides what is wrong
with it. Of what lies outside the working directory, little more is known than that `..` leads to a
directory.
-/

namespace SentimentTree

/-- What stands at a path. -/
inductive StoredEntry
  | file (content : ByteArray)
  | directory
  /-- Takes what is written to it and holds nothing. -/
  | void

/-- A path taken apart. -/
structure StoredPath where
  /-- Where the path starts. -/
  start : List String
  /-- The names that are followed to the directory of the last one. -/
  within : List String
  /-- The last name, if there is one. -/
  name : String
  /-- Whether a slash follows the last name, which then has to be that of a directory. -/
  closed : Bool

namespace StoredPath

/-- The longest path and the longest name, in bytes. -/
def maxBytes : Nat := 4095
def maxNameBytes : Nat := 255

/-- The parts of a path, which neither is empty nor holds a zero byte. -/
def read (path : String) : Except FileFault StoredPath :=
  let pieces := (Text.splitAt (· == '/') path.toList).map String.ofList
  let names := pieces.filter (!·.isEmpty)
  if path.toList.contains (Char.ofNat 0) then .error .zeroByte
  else if path.isEmpty then .error .notFound
  else if maxBytes < path.utf8ByteSize then .error .nameTooLong
  else .ok {
    start := if pieces.head? = some "" then ["/"] else []
    within := names.dropLast
    name := names.getLast?.getD ""
    closed := pieces.getLast? = some "" }

/-- Whether the last name can only be that of a directory: there is none, or it leads to the
directory itself or to the one above. -/
def endsInPlace (path : StoredPath) : Bool := ["", ".", ".."].contains path.name

end StoredPath

/-- Files and directories by the components of their paths. Paths out of the working directory start
with `..`, those from the root with a slash. -/
structure Store where
  entries : List (List String × StoredEntry) := []

namespace Store

def outside : List (List String × StoredEntry) :=
  [(["/"], .directory), (["/", "tmp"], .directory), (["/", "dev"], .directory),
    (["/", "dev", "null"], .void)]

/-- What stands at a path of components; the empty path is the working directory. -/
def entry? (store : Store) (components : List String) : Option StoredEntry :=
  if components.all (· == "..") then some .directory
  else (store.entries ++ outside).lookup components

def put (components : List String) (entry : StoredEntry) (store : Store) : Store :=
  ⟨(components, entry) :: store.entries.filter fun stored => stored.1 != components⟩

/-- The directory above a directory; the root is above itself. -/
def above (directory : List String) : List String :=
  match directory.getLast? with
  | none | some ".." => directory ++ [".."]
  | some "/" => directory
  | some _ => directory.dropLast

def child (store : Store) (directory : List String) (name : String) :
    Except FileFault StoredEntry :=
  if StoredPath.maxNameBytes < name.utf8ByteSize then .error .nameTooLong
  else match store.entry? (directory ++ [name]) with
    | some entry => .ok entry
    | none => .error .notFound

def enter (store : Store) (directory : List String) (name : String) :
    Except FileFault (List String) :=
  if name = "." then .ok directory
  else if name = ".." then .ok (above directory)
  else do
    match ← store.child directory name with
    | .directory => pure (directory ++ [name])
    | .file _ | .void => throw .notDirectory

def find (store : Store) (path : String) : Except FileFault StoredEntry := do
  let path ← StoredPath.read path
  let directory ← path.within.foldlM store.enter path.start
  if path.endsInPlace then pure .directory
  else match ← store.child directory path.name, path.closed with
    | .directory, _ => pure .directory
    | _, true => throw .notDirectory
    | entry, false => pure entry

def read (store : Store) (path : String) : Except FileFault ByteArray := do
  match ← store.find path with
  | .file content => pure content
  | .directory => throw .isDirectory
  | .void => pure ByteArray.empty

def write (store : Store) (path content : String) : Except FileFault Store := do
  let path ← StoredPath.read path
  let directory ← path.within.foldlM store.enter path.start
  if path.closed || path.endsInPlace then throw .isDirectory
  else match store.child directory path.name with
    | .ok .directory => throw .isDirectory
    | .ok .void => pure store
    | .ok (.file _) | .error .notFound =>
      pure (store.put (directory ++ [path.name]) (.file content.toUTF8))
    | .error fault => throw fault

end Store

end SentimentTree
