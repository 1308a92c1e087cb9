import WireScript.Document
import WireScript.Emission.Strategy
import WireScript.Fragment.Comment
import WireScript.Schema

/-! # Blocks of a message

The parts of a message's module that depend on its fields. Every block visits the
fields in declaration order, which is the order of their values on the wire.
-/

namespace WireScript

/-- The parts of a message's module. -/
structure Blocks where
  parameters : String
  constructor : Fragment
  write : Fragment
  read : Fragment

namespace Blocks

/-- The depth of statements inside the functions of a module. -/
def bodyDepth : Nat := 1

/-- The parameters of the constructor. -/
def parameterList (fields : List Field) : String :=
  ", ".intercalate (fields.map Field.name)

/-- The lines of the constructor for one field: its comment, if any, and the
assignment with the type of the field beside it. -/
def constructorLines (document : Document) (field : Field) : List String :=
  let comment := match document.field? field.name with
    | some text => Comment.lines text
    | none => []
  comment ++ ["this." ++ field.name ++ " = " ++ field.name ++ "; // " ++
    Text.collapse field.description]

/-- The constructor block. -/
def constructorBlock (fields : List Field) (document : Document) : Fragment :=
  ⟨bodyDepth, (fields.flatMap (constructorLines document)).map (⟨0, ·⟩)⟩

/-- Refuse a field that nests deeper than the context allows. -/
def checkNesting (field : Field) : Emit Unit := do
  let context ← get
  if field.kind.depth > context.limit then
    throw (.nestingTooDeep (context.message ++ "." ++ field.name) context.limit)

/-- Code that writes a field of the packet. -/
def writeField (table : Table) (field : Field) : Emit Code := do
  checkNesting field
  table.write field.kind ("packet." ++ field.name)

/-- The guard before a compatible field: leave when the input has ended. -/
def guard (field : Field) : Code :=
  if field.compatible then .block .exhausted (.one .leave) .done else .done

/-- Code that reads a field of the packet. -/
def readField (table : Table) (field : Field) : Emit Code := do
  checkNesting field
  let entry ← table.read field.kind
  return guard field ++ entry.code ++ .one (.assign field.name entry.value)

/-- Code for every field in order. -/
def eachField (emit : Field → Emit Code) : List Field → Emit Code
  | [] => pure .done
  | field :: rest => do
      let code ← emit field
      let others ← eachField emit rest
      return code ++ others

/-- Code that writes every field. -/
def writeCode (table : Table) (fields : List Field) : Emit Code :=
  eachField (writeField table) fields

/-- Code that reads every field. -/
def readCode (table : Table) (fields : List Field) : Emit Code :=
  eachField (readField table) fields

/-- Splice the lines that write a field behind a block. -/
def writeOnto (table : Table) (block : Fragment) (field : Field) : Emit Fragment := do
  checkNesting field
  let lines ← table.writeAt field.kind ("packet." ++ field.name) bodyDepth
  return block.append lines

/-- Put the lines of the guard before a compatible field behind a block. -/
def guardOnto (block : Fragment) (field : Field) : Fragment :=
  if field.compatible then
    ((block.line Head.exhausted.opening).indented 1 Statement.leave.text).line "\x7d"
  else block

/-- Splice the lines that read a field behind a block. -/
def readOnto (table : Table) (block : Fragment) (field : Field) : Emit Fragment := do
  checkNesting field
  let (lines, value) ← table.readAt field.kind bodyDepth
  return ((guardOnto block field).append lines).line (Statement.assign field.name value).text

/-- The lines that write every field, spliced field by field. -/
def writeBlock (table : Table) (fields : List Field) : Emit Fragment :=
  fields.foldlM (writeOnto table) (.empty bodyDepth)

/-- The lines that read every field, spliced field by field. -/
def readBlock (table : Table) (fields : List Field) : Emit Fragment :=
  fields.foldlM (readOnto table) (.empty bodyDepth)

/-- The parts of a message's module, its temporaries numbered from zero. -/
def ofMessage (table : Table) (message : Message) (document : Document) : Emit Blocks := do
  modify (fun context => context.begin message.name)
  let write ← writeCode table message.fields
  let read ← readCode table message.fields
  return {
    parameters := parameterList message.fields
    constructor := constructorBlock message.fields document
    write := write.fragment bodyDepth
    read := read.fragment bodyDepth }

end Blocks

end WireScript
