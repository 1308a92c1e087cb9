import WireScript.Document
import WireScript.Fault
import WireScript.Schema

/-! # Schema files

Messages as their author wrote them, with types still as text, and the step that
gives the types their meaning. Message names in types refer to any message of the
same file.
-/

namespace WireScript

/-- A field as written. -/
structure FieldEntry where
  name : String
  type : String
  doc : Option String
  compatible : Bool

/-- A message as written. -/
structure MessageEntry where
  id : ProtocolId
  name : String
  title : Option String
  fields : List FieldEntry

/-- The messages of a schema file. -/
structure SchemaFile where
  messages : List MessageEntry

/-- What a schema file means. -/
structure ResolvedSchema where
  schema : Schema
  documentation : Documentation

namespace SchemaFile

/-- The number a message name stands for. Of several messages with one name the
last one counts. -/
def names (file : SchemaFile) : Names := fun name =>
  (file.messages.reverse.find? (fun entry => entry.name == name)).map MessageEntry.id

/-- The meaning of a field. -/
def resolveField (names : Names) (message : String) (entry : FieldEntry) :
    Except Fault Field :=
  let text := Text.trim entry.type
  match Kind.parse names text with
  | .error issue => .error (.invalidKind (.ofField message entry.name (.inText issue text)))
  | .ok kind =>
      .ok { (Field.ofKind entry.name kind).describedAs text with compatible := entry.compatible }

/-- The meaning of a message. -/
def resolveMessage (names : Names) (entry : MessageEntry) : Except Fault Message := do
  let fields ← entry.fields.mapM (resolveField names entry.name)
  return ⟨entry.id, entry.name, fields⟩

/-- The document of a message. -/
def documentOf (entry : MessageEntry) : Document :=
  entry.fields.foldl (fun document field =>
    match field.doc with
    | some text => document.comment field.name text
    | none => document) ⟨entry.title.getD "", []⟩

/-- The documents of all messages that say something. -/
def documentation (file : SchemaFile) : Documentation :=
  file.messages.foldl (fun documentation entry =>
    let document := documentOf entry
    if document.isEmpty then documentation else documentation.insert entry.id document) .empty

/-- The schema and the documentation in a schema file. -/
def resolve (file : SchemaFile) : Except Fault ResolvedSchema := do
  let messages ← file.messages.mapM (resolveMessage file.names)
  return ⟨⟨messages⟩, file.documentation⟩

end SchemaFile

end WireScript
