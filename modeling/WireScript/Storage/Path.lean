import WireScript.Text.Split

/-! # Paths

A path is the text a caller gave. Its components are what it denotes: separators
may repeat, and `.` counts only at the very front. Joining and taking the parent
work on the text, since messages show paths as they were written.
-/

namespace WireScript

/-- A path, as written. -/
structure Path where
  text : String
  deriving DecidableEq

/-- One step of a path. -/
inductive Component where
  | root
  | here
  | up
  | name (text : List Char)
  deriving DecidableEq

namespace Path

/-- The step a piece between separators stands for, if it stands for one. -/
def step? (piece : List Char) : Option Component :=
  if piece = [] || piece = ['.'] then none
  else if piece = ['.', '.'] then some .up
  else some (.name piece)

/-- The pieces of a text between its separators. -/
def pieces (text : List Char) : List (List Char) :=
  Text.split (· == '/') text

/-- What stands in front of the steps of a path: the root, the directory the
path starts from, or nothing. -/
def start (text : List Char) : List Component :=
  match text with
  | '/' :: _ => [.root]
  | ['.'] => [.here]
  | '.' :: '/' :: _ => [.here]
  | _ => []

/-- The steps of a path in order. -/
def components (path : Path) : List Component :=
  start path.text.toList ++ (pieces path.text.toList).filterMap step?

/-- Whether the path can only denote a directory: it ends in a separator or in a
piece that names nothing new. -/
def needsDirectory (path : Path) : Bool :=
  match (pieces path.text.toList).getLast? with
  | some piece => piece = [] || piece = ['.'] || piece = ['.', '.']
  | none => false

/-- The path of `child` seen from a directory. A child that starts at the root
replaces the directory; an empty directory adds no separator, and one that ends
in a separator gets no second one. -/
def join (directory : Path) (child : String) : Path :=
  match child.toList, directory.text.toList.getLast? with
  | '/' :: _, _ => ⟨child⟩
  | _, none => ⟨child⟩
  | _, some '/' => ⟨directory.text ++ child⟩
  | _, some _ => ⟨directory.text ++ "/" ++ child⟩

/-- Drop separators and pieces `.` from the back of a path that is read from
its end, keeping what stands in front of the steps. -/
def dropTrailing : List Char → List Char
  | [] => []
  | ['/'] => ['/']
  | '/' :: rest => dropTrailing rest
  | '.' :: '/' :: rest => dropTrailing ('/' :: rest)
  | text => text
termination_by text => text.length

/-- The path without its last step, as written. A path without steps has none. -/
def parent? (path : Path) : Option Path :=
  match dropTrailing path.text.toList.reverse with
  | [] => none
  | ['/'] => none
  | text => some ⟨String.ofList (dropTrailing (text.dropWhile (· != '/'))).reverse⟩

end Path

end WireScript
