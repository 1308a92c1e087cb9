import WireScript.Artifact.Registry
import WireScript.Artifact.Support
import WireScript.Grouping
import WireScript.Schema.Validation
import WireScript.Text.Lowercase

/-! # Layout of the output

Where every message goes. A plan exists only for a valid schema within the
nesting limit whose paths differ from each other and from the paths of the other
artifacts even on file systems that ignore case.
-/

namespace WireScript.Layout

/-- The extension of message modules. -/
def extension : String := "js"

/-- The path of a message in a directory, from the output root. Blanks around the
directory and then separators around it are dropped. -/
def messagePath (directory name : String) : String :=
  let file := name ++ "." ++ extension
  let trimmed := Text.strip (· == '/') (Text.strip Text.isBlank directory.toList)
  if trimmed.isEmpty then file else String.ofList trimmed ++ "/" ++ file

/-- The paths no message may have. -/
def reservedPaths : List String :=
  Artifact.support.map Artifact.path ++ [Artifact.registryPath]

/-- The fault of a field that nests too deep. -/
def fieldNestingFault? (limit : Nat) (message : String) (field : Field) : Option Fault :=
  if field.kind.depth > limit then
    some (.nestingTooDeep (message ++ "." ++ field.name) limit)
  else none

/-- The first field of a schema that nests too deep. -/
def nestingFault? (limit : Nat) (schema : Schema) : Option Fault :=
  schema.messages.findSome? (fun message =>
    message.fields.findSome? (fieldNestingFault? limit message.name))

/-- The first path that an earlier one or a reserved one equals in lower case.
`claimed` holds the lower-case paths taken so far. -/
def collision? (claimed : List String) : List String → Option Fault
  | [] => none
  | path :: rest =>
      let small := Text.lowercase path
      if claimed.contains small then some (.pathCollision path)
      else collision? (small :: claimed) rest

/-- The path of every message, in schema order. -/
def plan (directory : ProtocolId → String) (limit : Nat) (schema : Schema) :
    Except Fault (List String) := do
  schema.validate
  if let some fault := nestingFault? limit schema then throw fault
  let paths := schema.messages.map (fun message =>
    messagePath (directory message.id) message.name)
  if let some fault := collision? (reservedPaths.map Text.lowercase) paths then throw fault
  return paths

end WireScript.Layout
