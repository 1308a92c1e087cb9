import WireScript.Fault
import WireScript.Schema
import WireScript.Schema.Name

/-! # Validation of schemas

The rules generation relies on, judged message by message and field by field in
declaration order; the first fault found is the one reported. References to
messages are judged only when every other rule holds.
-/

namespace WireScript

/-- The first fault in a list whose members are judged in order, each with the
members before it. -/
def firstFault {α : Type} (judge : List α → α → Option Fault) :
    List α → List α → Option Fault
  | _, [] => none
  | before, x :: rest =>
      match judge before x with
      | some fault => some fault
      | none => firstFault judge (before ++ [x]) rest

namespace Field

/-- The fault of a field, given the fields declared before it. -/
def fault? (message : String) (before : List Field) (field : Field) : Option Fault :=
  if !Name.isIdentifier field.name then
    some (.config (.fieldNotIdentifier message field.name))
  else if Name.isReserved field.name then
    some (.config (.fieldReserved message field.name))
  else if before.any (fun other => other.name == field.name) then
    some (.config (.duplicateField message field.name))
  else none

/-- The first reference of a field to a message that is not declared. -/
def referenceFault? (declared : ProtocolId → Bool) (message : String) (field : Field) :
    Option Fault :=
  (field.kind.nestedIds.find? (fun id => !declared id)).map
    (.unknownNested message field.name)

end Field

namespace Message

/-- The fault of a message apart from its references, given the messages
declared before it. -/
def fault? (before : List Message) (message : Message) : Option Fault :=
  if message.id > maxProtocolId then some (.idOutOfRange message.id)
  else
    match before.find? (fun other => other.id == message.id) with
    | some other => some (.duplicateId message.id other.name message.name)
    | none =>
        if before.any (fun other => other.name == message.name) then
          some (.duplicateName message.name)
        else if !Name.isIdentifier message.name then
          some (.config (.messageNotIdentifier message.name))
        else if Name.isReserved message.name || Name.isTemporary message.name then
          some (.config (.messageReserved message.name))
        else firstFault (Field.fault? message.name) [] message.fields

/-- The first reference of a message to one that is not declared. -/
def referenceFault? (declared : ProtocolId → Bool) (message : Message) : Option Fault :=
  message.fields.findSome? (Field.referenceFault? declared message.name)

end Message

namespace Schema

/-- Whether some message has a number. -/
def declares (schema : Schema) (id : ProtocolId) : Bool :=
  schema.messages.any (fun message => message.id == id)

/-- The first fault of a schema. -/
def fault? (schema : Schema) : Option Fault :=
  match firstFault Message.fault? [] schema.messages with
  | some fault => some fault
  | none => schema.messages.findSome? (Message.referenceFault? schema.declares)

/-- Accept a schema or report its first fault. -/
def validate (schema : Schema) : Except Fault Unit :=
  match schema.fault? with
  | some fault => .error fault
  | none => .ok ()

end Schema

end WireScript
