import WireScript.Code
import WireScript.Emission.Context

/-! # Emission strategies

A strategy produces the code that writes and reads a value. Which one serves a
kind is looked up in a table by the tag of the kind, again at every level, so a
table with gaps or with a strategy of another shape faults where it is used.

Code comes in two forms: as a tree, from which the blocks of a message are laid out,
and as lines made at a depth, which callers splice into lines of their own.
-/

namespace WireScript

/-- A way to write and read values. A scalar is one call in each direction; a
collection or a map is its size followed by its entries; a nested message is
left to its own module. -/
inductive Strategy where
  | scalar (writer reader : String)
  | sequence (collection : Collection)
  | entries
  | nested
  deriving DecidableEq

/-- The strategy for each tag. -/
structure Table where
  strategy? : Tag → Option Strategy

/-- Code that reads a value, and the expression for the value. -/
structure ReadCode where
  code : Code
  value : String

namespace Collection

/-- The property that holds the number of elements. -/
def measure : Collection → String
  | .set => "size"
  | _ => "length"

/-- The container a collection is read into. -/
def container : Collection → Container
  | .set => .set
  | _ => .array

end Collection

namespace Table

/-- The table without strategies. -/
def empty : Table := ⟨fun _ => none⟩

/-- Set the strategy for a tag. -/
def insert (table : Table) (tag : Tag) (strategy : Strategy) : Table :=
  ⟨fun other => if other = tag then some strategy else table.strategy? other⟩

/-- Remove the strategy for a tag. -/
def erase (table : Table) (tag : Tag) : Table :=
  ⟨fun other => if other = tag then none else table.strategy? other⟩

/-- Whether a tag has a strategy. -/
def contains (table : Table) (tag : Tag) : Bool := (table.strategy? tag).isSome

/-- The tags that have a strategy. -/
def tags (table : Table) : List Tag := Tag.all.filter table.contains

/-- The strategy for a kind. -/
def resolve (table : Table) (kind : Kind) : Except Fault Strategy :=
  match table.strategy? kind.tag with
  | some strategy => .ok strategy
  | none => .error (.unsupportedKind kind.tag)

end Table

namespace Scalar

/-- The name of a scalar inside the buffer's methods. -/
def methodName : Scalar → String
  | .bool => "Boolean"
  | .byte => "Byte"
  | .short => "Short"
  | .int => "Int"
  | .long => "Long"
  | .float => "Float"
  | .double => "Double"
  | .char => "Char"
  | .string => "String"

end Scalar

/-- The strategy that fits a tag. -/
def Strategy.ofTag : Tag → Strategy
  | .scalar s => .scalar ("write" ++ s.methodName) ("read" ++ s.methodName)
  | .sequence c => .sequence c
  | .map => .entries
  | .message => .nested

/-- The table with the fitting strategy for every tag. -/
def Table.full : Table := ⟨fun tag => some (Strategy.ofTag tag)⟩

namespace Strategy

/-- What a strategy is called when it meets a kind of another shape. -/
def name : Strategy → String
  | .scalar _ _ => "scalar"
  | .sequence collection => collection.name
  | .entries => "map"
  | .nested => "nested message"

/-- The fault of a strategy that meets a kind of another shape. -/
def mismatch (strategy : Strategy) (kind : Kind) : Fault :=
  .config (.strategyMismatch strategy.name kind)

/-- The container a strategy declares before a read loop. -/
def container? : Strategy → Option Container
  | .sequence collection => some collection.container
  | .entries => some .map
  | _ => none

/-- Declare an empty container under a fresh name. -/
def declare (container : Container) : Emit (String × Code) := do
  let name ← Emit.fresh "result"
  return (name, .one (.create name container))

/-- Code that writes a container: a zero when it is missing, otherwise its size
and then each entry. -/
def writeContainer (source measure : String) (parameters : List String) (body : Code) : Code :=
  .ifNull source (.one .writeZero)
    (.step (.writeCount source measure) (.block (.each source parameters) body .done)) .done

/-- Code that reads a container declared as `name`: its size and then each
entry. -/
def readContainer (declaration : Code) (size index : String) (body : Code) : Code :=
  declaration ++
    .step (.read size "readInt")
      (.block (.positive size) (.block (.count index size) body .done) .done)

/-- Code that writes the value of an expression. -/
def write (table : Table) (strategy : Strategy) (kind : Kind) (source : String) : Emit Code :=
  match strategy, kind with
  | .scalar writer _, _ => pure (.one (.write writer source))
  | .sequence collection, .sequence _ element => do
      let name ← Emit.fresh "element"
      let inner ← table.resolve element
      let body ← inner.write table element name
      return writeContainer source collection.measure [name] body
  | .entries, .map key value => do
      let keyName ← Emit.fresh "key"
      let valueName ← Emit.fresh "value"
      let keyStrategy ← table.resolve key
      let keyCode ← keyStrategy.write table key keyName
      let valueStrategy ← table.resolve value
      let valueCode ← valueStrategy.write table value valueName
      return writeContainer source "size" [valueName, keyName] (keyCode ++ valueCode)
  | .nested, .message id => pure (.one (.writeMessage source id))
  | strategy, kind => throw (strategy.mismatch kind)

/-- Code that reads a value. -/
def read (table : Table) (strategy : Strategy) (kind : Kind) : Emit ReadCode :=
  match strategy, kind with
  | .scalar _ reader, _ => do
      let name ← Emit.fresh "result"
      return ⟨.one (.read name reader), name⟩
  | .sequence collection, .sequence _ element => do
      let (name, declaration) ← declare collection.container
      let size ← Emit.fresh "size"
      let index ← Emit.fresh "index"
      let inner ← table.resolve element
      let entry ← inner.read table element
      return ⟨readContainer declaration size index
        (entry.code ++ .one (.insert collection.container name [entry.value])), name⟩
  | .entries, .map key value => do
      let (name, declaration) ← declare .map
      let size ← Emit.fresh "size"
      let index ← Emit.fresh "index"
      let keyStrategy ← table.resolve key
      let keyEntry ← keyStrategy.read table key
      let valueStrategy ← table.resolve value
      let valueEntry ← valueStrategy.read table value
      return ⟨readContainer declaration size index
        (keyEntry.code ++ valueEntry.code ++
          .one (.insert .map name [keyEntry.value, valueEntry.value])), name⟩
  | .nested, .message id => do
      let name ← Emit.fresh "result"
      return ⟨.one (.readMessage name id), name⟩
  | strategy, kind => throw (strategy.mismatch kind)

/-- The lines of a written container in front of its entries. -/
def beginWrite (source measure : String) (parameters : List String) (depth : Nat) : Fragment :=
  (Fragment.empty depth)
    |>.line ("if (" ++ source ++ " == null) \x7b")
    |>.indented 1 Statement.writeZero.text
    |>.line "\x7d else \x7b"
    |>.indented 1 (Statement.writeCount source measure).text
    |>.indented 1 (Head.each source parameters).opening

/-- The lines of a written container behind its entries. -/
def endWrite (fragment : Fragment) : Fragment :=
  (fragment.indented 1 "\x7d);").line "\x7d"

/-- Declare an empty container under a fresh name, at a depth. -/
def declareAt (container : Container) (depth : Nat) : Emit (String × Fragment) := do
  let name ← Emit.fresh "result"
  return (name, (Fragment.empty depth).line (Statement.create name container).text)

/-- The lines of a read container in front of its entries. -/
def beginRead (declaration : Fragment) (size index : String) : Fragment :=
  declaration
    |>.line (Statement.read size "readInt").text
    |>.line (Head.positive size).opening
    |>.indented 1 (Head.count index size).opening

/-- The lines of a read container behind those of an entry, which is inserted. -/
def endRead (fragment : Fragment) (insertion : Statement) : Fragment :=
  ((fragment.indented 2 insertion.text).indented 1 "\x7d").line "\x7d"

/-- The lines that write the value of an expression, at a depth. Those of an entry
are made two levels deeper and spliced in. -/
def writeAt (table : Table) (strategy : Strategy) (kind : Kind) (source : String)
    (depth : Nat) : Emit Fragment :=
  match strategy, kind with
  | .scalar writer _, _ =>
      pure ((Fragment.empty depth).line (Statement.write writer source).text)
  | .sequence collection, .sequence _ element => do
      let name ← Emit.fresh "element"
      let inner ← table.resolve element
      let body ← inner.writeAt table element name (depth + 2)
      return endWrite ((beginWrite source collection.measure [name] depth).append body)
  | .entries, .map key value => do
      let keyName ← Emit.fresh "key"
      let valueName ← Emit.fresh "value"
      let keyStrategy ← table.resolve key
      let keyBody ← keyStrategy.writeAt table key keyName (depth + 2)
      let valueStrategy ← table.resolve value
      let valueBody ← valueStrategy.writeAt table value valueName (depth + 2)
      return endWrite
        (((beginWrite source "size" [valueName, keyName] depth).append keyBody).append valueBody)
  | .nested, .message id =>
      pure ((Fragment.empty depth).line (Statement.writeMessage source id).text)
  | strategy, kind => throw (strategy.mismatch kind)

/-- The lines that read a value, at a depth, and the expression for the value. -/
def readAt (table : Table) (strategy : Strategy) (kind : Kind) (depth : Nat) :
    Emit (Fragment × String) :=
  match strategy, kind with
  | .scalar _ reader, _ => do
      let name ← Emit.fresh "result"
      return ((Fragment.empty depth).line (Statement.read name reader).text, name)
  | .sequence collection, .sequence _ element => do
      let (name, declaration) ← declareAt collection.container depth
      let size ← Emit.fresh "size"
      let index ← Emit.fresh "index"
      let inner ← table.resolve element
      let (body, entry) ← inner.readAt table element (depth + 2)
      return (endRead ((beginRead declaration size index).append body)
        (.insert collection.container name [entry]), name)
  | .entries, .map key value => do
      let (name, declaration) ← declareAt .map depth
      let size ← Emit.fresh "size"
      let index ← Emit.fresh "index"
      let keyStrategy ← table.resolve key
      let (keyBody, keyEntry) ← keyStrategy.readAt table key (depth + 2)
      let valueStrategy ← table.resolve value
      let (valueBody, valueEntry) ← valueStrategy.readAt table value (depth + 2)
      return (endRead (((beginRead declaration size index).append keyBody).append valueBody)
        (.insert .map name [keyEntry, valueEntry]), name)
  | .nested, .message id => do
      let name ← Emit.fresh "result"
      return ((Fragment.empty depth).line (Statement.readMessage name id).text, name)
  | strategy, kind => throw (strategy.mismatch kind)

end Strategy

namespace Table

/-- Code that writes the value of an expression, by the strategy for its kind. -/
def write (table : Table) (kind : Kind) (source : String) : Emit Code := do
  let strategy ← table.resolve kind
  strategy.write table kind source

/-- Code that reads a value, by the strategy for its kind. -/
def read (table : Table) (kind : Kind) : Emit ReadCode := do
  let strategy ← table.resolve kind
  strategy.read table kind

/-- The lines that write the value of an expression, at a depth, by the strategy for
its kind. -/
def writeAt (table : Table) (kind : Kind) (source : String) (depth : Nat) : Emit Fragment := do
  let strategy ← table.resolve kind
  strategy.writeAt table kind source depth

/-- The lines that read a value, at a depth, and the expression for the value, by the
strategy for its kind. -/
def readAt (table : Table) (kind : Kind) (depth : Nat) : Emit (Fragment × String) := do
  let strategy ← table.resolve kind
  strategy.readAt table kind depth

end Table

end WireScript
