import WireScript.Data.Toml
import WireScript.SchemaFile
import WireScript.Storage.FileStore

/-! # Reading schema files

A schema file is a table of messages, each with its number, its name and its
fields.
-/

namespace WireScript

/-- The field in a value. -/
def FieldEntry.ofData? (dialect : Dialect) (data : Data) : Option FieldEntry := do
  match ← data.members? dialect ["name", "type", "doc", "compatible"] with
  | [name, type, doc, compatible] =>
      some {
        name := ← Data.required Data.text? name
        type := ← Data.required Data.text? type
        doc := ← Data.optional (fun data => data.text?.map some) none doc
        compatible := ← Data.optional Data.boolean? false compatible }
  | _ => none

/-- The message in a value. -/
def MessageEntry.ofData? (dialect : Dialect) (data : Data) : Option MessageEntry := do
  match ← data.members? dialect ["id", "name", "title", "fields"] with
  | [id, name, title, fields] =>
      some {
        id := ← Data.required Data.protocolId? id
        name := ← Data.required Data.text? name
        title := ← Data.optional (fun data => data.text?.map some) none title
        fields := ← Data.optional (Data.list? (FieldEntry.ofData? dialect)) [] fields }
  | _ => none

namespace SchemaFile

/-- The schema file in a value. -/
def ofData? (dialect : Dialect) (data : Data) : Option SchemaFile := do
  match ← data.members? dialect ["messages"] with
  | [messages] =>
      some ⟨← Data.optional (Data.list? (MessageEntry.ofData? dialect)) [] messages⟩
  | _ => none

/-- Read TOML. -/
def ofToml (text : String) : Except Fault SchemaFile :=
  match (Data.Toml.read? text).bind (ofData? Data.Toml.dialect) with
  | some file => .ok file
  | none => .error (.config (.unreadable .toml))

/-- Read a file. -/
def load {m : Type → Type} [Monad m] [FileStore m] (path : Path) : m (Except Fault SchemaFile) := do
  match ← FileStore.readText path with
  | .error error => return .error (.io path error)
  | .ok text => return ofToml text

end SchemaFile

end WireScript
