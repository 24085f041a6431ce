import Reckon.Stream.ByteReader

/-! A directory of files held in memory, at its place in a larger tree. The tree has
the directories that lead to it and those that the names of its files pass through. -/

namespace Reckon

/-- A place in the tree is the list of names that lead to it from the root. -/
structure Directory where
  location : List String
  files : List (List String × List UInt8)

namespace Directory

def names (path : String) : List String := path.splitOn "/"

/-- The paths of the files are relative to `location`. -/
def ofFiles (location : List String) (files : List (String × List UInt8)) : Directory :=
  ⟨location, files.map fun (path, bytes) => (location ++ names path, bytes)⟩

inductive Node where
  | file (bytes : List UInt8)
  | directory

def node? (directory : Directory) (place : List String) : Option Node :=
  match directory.files.find? (·.1 = place) with
  | some (_, bytes) => some (.file bytes)
  | none =>
    if place.isPrefixOf directory.location ∨ directory.files.any (place.isPrefixOf ·.1) then
      some .directory
    else none

/-- How many bytes a name may have. -/
def nameLimit : Nat := 255

/-- How many bytes a path may have. -/
def pathLimit : Nat := 4095

/-- Follows a path from `place`, which must lead to something at every name. Only
a directory can be followed further, and above the root lies the root itself. -/
def follow (directory : Directory) (place : List String) :
    (path : List String) → Except ReadError Node
  | [] => (directory.node? place).elim (.error .notFound) .ok
  | name :: path =>
    match directory.node? place with
    | none => .error .notFound
    | some (.file _) => .error .notDirectory
    | some .directory =>
      if name = "" ∨ name = "." then directory.follow place path
      else if name = ".." then directory.follow place.dropLast path
      else if nameLimit < name.utf8ByteSize then .error .nameTooLong
      else directory.follow (place ++ [name]) path

def isAbsolute (path : String) : Bool := path.toList.head? = some '/'

/-- The path from the root that leads where `path` leads from the directory. -/
def absolute (directory : Directory) (path : String) : String :=
  if isAbsolute path then path
  else String.join (directory.location.map ("/" ++ ·)) ++ "/" ++ path

/-- What a path leads to. It is refused unseen if it cannot be a path at all. -/
def find (directory : Directory) (path : String) : Except ReadError Node :=
  if path.toList.contains '\x00' then .error .nulInName
  else if path = "" then .error .notFound
  else if pathLimit < path.utf8ByteSize then .error .nameTooLong
  else directory.follow (if isAbsolute path then [] else directory.location) (names path)

def bufferSize : Nat := 8192

/-- Opens the file at `path`. A directory can be opened as well, but not read. -/
def open? (directory : Directory) (path : String) : Except ReadError ByteReader :=
  match directory.find path with
  | .ok (.file bytes) => .ok (.ofBytes bytes bufferSize)
  | .ok .directory => .ok (.ofSupplies [.failure .isDirectory])
  | .error error => .error error

end Directory

end Reckon
