/-! # Names in generated code

Messages and fields become bindings and properties of the generated modules, so
their names are ASCII identifiers that neither the language nor the modules use
already.
-/

namespace WireScript.Name

/-- Names no message and no field may have: reserved and restricted words, names
of global values, members every message has, and the bindings of the modules. -/
def reserved : List String := [
  "await", "break", "case", "catch", "class", "const", "continue", "debugger", "default",
  "delete", "do", "else", "enum", "export", "extends", "false", "finally", "for", "function",
  "if", "implements", "import", "in", "instanceof", "interface", "let", "new", "null",
  "package", "private", "protected", "public", "return", "static", "super", "switch", "this",
  "throw", "true", "try", "typeof", "var", "void", "while", "with", "yield",
  "arguments", "eval", "undefined", "NaN", "Infinity", "__proto__",
  "protocolId", "write", "read",
  "Map", "Set", "Error", "protocols", "buffer", "packet", "ProtocolManager"]

/-- The words temporaries of generated code start with. -/
def temporaryStems : List String :=
  ["result", "size", "index", "element", "key", "value"]

/-- Whether a character may start an identifier. -/
def startsIdentifier (c : Char) : Bool :=
  c.isAlpha || c == '_' || c == '$'

/-- Whether a character may stand inside an identifier. -/
def continuesIdentifier (c : Char) : Bool :=
  c.isAlphanum || c == '_' || c == '$'

/-- Whether a name is an ASCII identifier. -/
def isIdentifier (name : String) : Bool :=
  match name.toList with
  | [] => false
  | first :: rest => startsIdentifier first && rest.all continuesIdentifier

/-- Whether a name is reserved. -/
def isReserved (name : String) : Bool := reserved.contains name

/-- Whether a name is a stem followed by ASCII digits. -/
def isNumberedStem (name stem : List Char) : Bool :=
  stem.isPrefixOf name &&
    (let digits := name.drop stem.length
     !digits.isEmpty && digits.all Char.isDigit)

/-- Whether a name is one generated code may give to a temporary. -/
def isTemporary (name : String) : Bool :=
  temporaryStems.any (fun stem => isNumberedStem name.toList stem.toList)

end WireScript.Name
