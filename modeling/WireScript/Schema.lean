import WireScript.Kind
import WireScript.Text.Blank

/-! # Schemas

Messages with their fields, in the order of their declaration. The order of the
fields is the order of their values on the wire, so nothing here changes it.
-/

namespace WireScript

/-- A field of a message. The description is the type as its author wrote it; it
is shown in comments only. A compatible field was added later, and readers
accept input that ends before it. -/
structure Field where
  name : String
  description : String
  kind : Kind
  compatible : Bool

/-- A message and its number. -/
structure Message where
  id : ProtocolId
  name : String
  fields : List Field

/-- Messages in declaration order. -/
structure Schema where
  messages : List Message

namespace Field

/-- A field described by the expression of its kind. -/
def ofKind (name : String) (kind : Kind) : Field :=
  ⟨name, kind.text, kind, false⟩

/-- Describe the type in other words. Runs of blank characters, line breaks
among them, become single spaces. -/
def describedAs (field : Field) (description : String) : Field :=
  { field with description := Text.collapse description }

end Field

/-- The first message with a number. -/
def Schema.find? (schema : Schema) (id : ProtocolId) : Option Message :=
  schema.messages.find? (fun message => message.id == id)

end WireScript
