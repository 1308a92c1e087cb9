import WireScript.Fragment
import WireScript.Kind

/-! # Generated code

The statements of write and read blocks as a tree. Blocks are nested by
construction and indentation is added when a tree is laid out as lines, so the
two always agree.
-/

namespace WireScript

/-- The containers read loops fill. -/
inductive Container where
  | array
  | set
  | map
  deriving DecidableEq

/-- A statement on a line of its own. -/
inductive Statement where
  | write (method source : String)
  | writeMessage (source : String) (id : ProtocolId)
  | writeCount (source measure : String)
  | writeZero
  | read (name method : String)
  | readMessage (name : String) (id : ProtocolId)
  | create (name : String) (container : Container)
  | insert (container : Container) (name : String) (values : List String)
  | assign (field value : String)
  | leave
  deriving DecidableEq

/-- The line that opens a block. -/
inductive Head where
  | each (source : String) (parameters : List String)
  | positive (size : String)
  | count (index size : String)
  | exhausted
  deriving DecidableEq

/-- Statements in sequence. The branch on a missing value has a block for each
case. -/
inductive Code where
  | done
  | step (statement : Statement) (rest : Code)
  | block (head : Head) (body rest : Code)
  | ifNull (source : String) (absent present rest : Code)
  deriving DecidableEq

/-- The expression for an empty container. -/
def Container.fresh : Container → String
  | .array => "[]"
  | .set => "new Set()"
  | .map => "new Map()"

/-- The method that adds to a container. -/
def Container.method : Container → String
  | .array => "push"
  | .set => "add"
  | .map => "set"

/-- The text of a statement. -/
def Statement.text : Statement → String
  | .write method source => "buffer." ++ method ++ "(" ++ source ++ ");"
  | .writeMessage source id =>
      "buffer.writePacket(" ++ source ++ ", " ++ Text.decimal id.toNat ++ ");"
  | .writeCount source measure => "buffer.writeInt(" ++ source ++ "." ++ measure ++ ");"
  | .writeZero => "buffer.writeInt(0);"
  | .read name method => "const " ++ name ++ " = buffer." ++ method ++ "();"
  | .readMessage name id =>
      "const " ++ name ++ " = buffer.readPacket(" ++ Text.decimal id.toNat ++ ");"
  | .create name container => "const " ++ name ++ " = " ++ container.fresh ++ ";"
  | .insert container name values =>
      name ++ "." ++ container.method ++ "(" ++ ", ".intercalate values ++ ");"
  | .assign field value => "packet." ++ field ++ " = " ++ value ++ ";"
  | .leave => "return packet;"

namespace Head

/-- The parameters of an arrow function. A single one stands without brackets. -/
def parameterText : List String → String
  | [parameter] => parameter
  | parameters => "(" ++ ", ".intercalate parameters ++ ")"

/-- The line that opens the block. -/
def opening : Head → String
  | .each source parameters =>
      source ++ ".forEach(" ++ parameterText parameters ++ " => \x7b"
  | .positive size => "if (" ++ size ++ " > 0) \x7b"
  | .count index size =>
      "for (let " ++ index ++ " = 0; " ++ index ++ " < " ++ size ++ "; " ++ index ++ "++) \x7b"
  | .exhausted => "if (!buffer.isReadable()) \x7b"

/-- The line that closes the block. -/
def closing : Head → String
  | .each _ _ => "\x7d);"
  | _ => "\x7d"

end Head

namespace Code

/-- The code of one statement. -/
def one (statement : Statement) : Code := .step statement .done

/-- One piece of code after another. -/
def append : Code → Code → Code
  | .done, next => next
  | .step statement rest, next => .step statement (rest.append next)
  | .block head body rest, next => .block head body (rest.append next)
  | .ifNull source absent present rest, next => .ifNull source absent present (rest.append next)

instance : Append Code := ⟨append⟩

/-- The lines of code below `level` levels of its fragment. -/
def lines (level : Nat) : Code → List Line
  | .done => []
  | .step statement rest => ⟨level, statement.text⟩ :: rest.lines level
  | .block head body rest =>
      ⟨level, head.opening⟩ :: body.lines (level + 1) ++
        ⟨level, head.closing⟩ :: rest.lines level
  | .ifNull source absent present rest =>
      ⟨level, "if (" ++ source ++ " == null) \x7b"⟩ :: absent.lines (level + 1) ++
        ⟨level, "\x7d else \x7b"⟩ :: present.lines (level + 1) ++
        ⟨level, "\x7d"⟩ :: rest.lines level

/-- Code laid out at a depth. -/
def fragment (code : Code) (depth : Nat) : Fragment := ⟨depth, code.lines 0⟩

theorem done_append (code : Code) : .done ++ code = code := rfl

/-- Sequenced code is laid out piece by piece. -/
theorem lines_append (level : Nat) (first second : Code) :
    (first ++ second).lines level = first.lines level ++ second.lines level := by
  induction first with
  | done => rfl
  | step statement rest ih =>
      exact congrArg (⟨level, statement.text⟩ :: ·) ih
  | block head body rest _ ih =>
      change ⟨level, head.opening⟩ :: body.lines (level + 1) ++
        ⟨level, head.closing⟩ :: (rest ++ second).lines level = _
      rw [ih]
      simp [lines]
  | ifNull source absent present rest _ _ ih =>
      change ⟨level, _⟩ :: absent.lines (level + 1) ++
        ⟨level, _⟩ :: present.lines (level + 1) ++ ⟨level, _⟩ :: (rest ++ second).lines level = _
      rw [ih]
      simp [lines]

end Code

end WireScript
