import WireScript.Storage.FileStore

/-! # File trees

A file system as a value: files and directories by their location, which is the
list of names from the root, and the location relative paths start from. There
are no links. The root is always a directory.
-/

namespace WireScript

/-- The names on the way from the root. -/
abbrev Location := List String

/-- What is at a location. -/
inductive Entry where
  | directory
  | file (contents : ByteArray)

/-- Two files are one when their bytes are. -/
instance : DecidableEq Entry
  | .directory, .directory => .isTrue rfl
  | .directory, .file _ => .isFalse nofun
  | .file _, .directory => .isFalse nofun
  | .file first, .file second =>
      decidable_of_iff (first.data = second.data) (by simp [ByteArray.ext_iff])

/-- Files and directories by location. -/
structure FileTree where
  entries : List (Location × Entry)
  origin : Location
  deriving DecidableEq

namespace FileTree

/-- The longest name of a file, in bytes. -/
def maxNameSize : Nat := 255

/-- The longest path, in bytes. -/
def maxPathSize : Nat := 4095

/-- The fault in the text of a path, whatever it denotes. -/
def textError? (path : Path) : Option FileError :=
  if path.text.toList.contains '\x00' then some .nulInPath
  else if path.text.utf8ByteSize > maxPathSize then some .nameTooLong
  else none

/-- What is at a location, if anything. -/
def lookup (tree : FileTree) (location : Location) : Option Entry :=
  if location = [] then some .directory else tree.entries.lookup location

/-- Put an entry at a location. -/
def insert (tree : FileTree) (location : Location) (entry : Entry) : FileTree :=
  { tree with
    entries := (location, entry) :: tree.entries.filter (fun other => other.1 != location) }

/-- Remove a location with everything below it. -/
def erase (tree : FileTree) (location : Location) : FileTree :=
  { tree with entries := tree.entries.filter (fun other => !location.isPrefixOf other.1) }

/-- A tree that holds one chain of directories, in the last of which relative
paths start. -/
def ofOrigin (origin : Location) : FileTree :=
  ⟨(List.range origin.length).map (fun n => (origin.take (n + 1), .directory)), origin⟩

/-- Follow steps from a location. Every location left behind must be a
directory; the one arrived at need not exist. -/
def follow (tree : FileTree) : Location → List Component → Except FileError Location
  | location, [] => .ok location
  | _, .root :: steps => follow tree [] steps
  | location, .here :: steps => follow tree location steps
  | location, step :: steps =>
      match tree.lookup location with
      | none => .error .notFound
      | some (.file _) => .error .notADirectory
      | some .directory =>
          match step with
          | .name text =>
              let name := String.ofList text
              if name.utf8ByteSize > maxNameSize then .error .nameTooLong
              else follow tree (location ++ [name]) steps
          | _ => follow tree location.dropLast steps

/-- The location of a path that can be followed. -/
def locate (tree : FileTree) (path : Path) : Except FileError Location :=
  if path.text.isEmpty then .error .notFound
  else
    match textError? path with
    | some error => .error error
    | none => tree.follow tree.origin path.components

/-- What a path denotes. -/
def find (tree : FileTree) (path : Path) : Except FileError (Location × Entry) := do
  let location ← tree.locate path
  match tree.lookup location with
  | none => .error .notFound
  | some .directory => .ok (location, .directory)
  | some (.file contents) =>
      if path.needsDirectory then .error .notADirectory else .ok (location, .file contents)

/-- The text of a file. -/
def readText (tree : FileTree) (path : Path) : Except FileError String := do
  match ← tree.find path with
  | (_, .directory) => .error .isADirectory
  | (_, .file contents) =>
      match String.fromUTF8? contents with
      | some text => .ok text
      | none => .error .notUnicode

/-- Whether something is there. -/
def isPresent (tree : FileTree) (path : Path) : Bool :=
  match tree.find path with
  | .ok _ => true
  | .error _ => false

/-- Create one directory from a location by its steps. -/
def createSteps (tree : FileTree) (steps : List Component) : Except FileError FileTree := do
  let location ← tree.follow tree.origin steps
  match steps.getLast? with
  | some (.name _) =>
      match tree.lookup location with
      | none => .ok (tree.insert location .directory)
      | some _ => .error .alreadyExists
  | _ => .error .alreadyExists

/-- Whether steps lead to a directory. -/
def leadsToDirectory (tree : FileTree) (steps : List Component) : Bool :=
  match tree.follow tree.origin steps with
  | .ok location => tree.lookup location == some .directory
  | .error _ => false

/-- Create one directory; one that is there already will do. -/
def ensureSteps (tree : FileTree) (steps : List Component) : Except FileError FileTree :=
  match tree.createSteps steps with
  | .ok tree => .ok tree
  | .error error => if tree.leadsToDirectory steps then .ok tree else .error error

/-- Create the directory some steps lead to, given from the last one. Those on
the way to it are created only if one of them is missing. -/
def createWay (tree : FileTree) : List Component → Except FileError Unit × FileTree
  | [] => (.ok (), tree)
  | step :: before =>
      let steps := (step :: before).reverse
      match tree.createSteps steps with
      | .ok tree => (.ok (), tree)
      | .error .notFound =>
          match createWay tree before with
          | (.error error, tree) => (.error error, tree)
          | (.ok (), tree) =>
              match tree.ensureSteps steps with
              | .ok tree => (.ok (), tree)
              | .error error => (.error error, tree)
      | .error error =>
          if tree.leadsToDirectory steps then (.ok (), tree) else (.error error, tree)

/-- Create a directory and those on the way to it. -/
def createAll (tree : FileTree) (path : Path) : Except FileError Unit × FileTree :=
  match textError? path with
  | some error => (.error error, tree)
  | none => tree.createWay path.components.reverse

/-- Remove a directory with everything below it. -/
def removeAll (tree : FileTree) (path : Path) : Except FileError Unit × FileTree :=
  match tree.find path with
  | .error error => (.error error, tree)
  | .ok (_, .file _) => (.error .notADirectory, tree)
  | .ok (location, .directory) => (.ok (), tree.erase location)

/-- Create or replace a file. -/
def writeText (tree : FileTree) (path : Path) (text : String) :
    Except FileError Unit × FileTree :=
  match tree.locate path with
  | .error error => (.error error, tree)
  | .ok location =>
      if path.needsDirectory || tree.lookup location == some .directory then
        (.error .isADirectory, tree)
      else (.ok (), tree.insert location (.file text.toUTF8))

instance : FileStore (StateM FileTree) where
  readText path := fun tree => (tree.readText path, tree)
  isPresent path := fun tree => (tree.isPresent path, tree)
  createAll path := fun tree => tree.createAll path
  removeAll path := fun tree => tree.removeAll path
  writeText path text := fun tree => tree.writeText path text

/-- The paths of everything below a location, directories marked by a separator
at the end, in the order of their characters. -/
def listing (tree : FileTree) (location : Location) : List String :=
  let below := tree.entries.filterMap (fun (place, entry) =>
    if location.isPrefixOf place && place != location then
      let path := "/".intercalate (place.drop location.length)
      some (match entry with | .directory => path ++ "/" | .file _ => path)
    else none)
  below.mergeSort (fun a b => decide (a ≤ b))

end FileTree

end WireScript
