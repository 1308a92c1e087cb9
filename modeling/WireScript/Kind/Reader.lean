import WireScript.Fault

/-! # Type expressions as callers read them

A text that is no type expression is the fault of the kind it stands for, and the
fault shows the text.
-/

namespace WireScript.Kind

/-- Read a type expression, given the messages it may name. -/
def read (names : Names) (text : String) : Except Fault Kind :=
  match parse names text with
  | .ok kind => .ok kind
  | .error issue => .error (.invalidKind (.inText issue text))

end WireScript.Kind
