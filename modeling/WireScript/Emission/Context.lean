import WireScript.Fault

/-! # Emission contexts

What emission of one message keeps: its name, the nesting limit, and the counter
that numbers temporaries. A fault does not take back the numbers used before it.
-/

namespace WireScript

/-- The state of emission. -/
structure Context where
  message : String
  next : Nat
  limit : Nat

/-- Emission that may stop with a fault. The context reached so far remains. -/
abbrev Emit (α : Type) := ExceptT Fault (StateM Context) α

namespace Context

/-- A context before any message. -/
def ofLimit (limit : Nat) : Context := ⟨"", 0, limit⟩

/-- Turn to a message. Its temporaries are numbered from zero. -/
def begin (context : Context) (message : String) : Context :=
  { context with message := message, next := 0 }

/-- The name for the next temporary, and the context after it. -/
def fresh (context : Context) (stem : String) : String × Context :=
  (stem ++ Text.decimal context.next, { context with next := context.next + 1 })

end Context

namespace Emit

/-- Take the name for a temporary. -/
def fresh (stem : String) : Emit String := modifyGet (fun context => context.fresh stem)

end Emit

end WireScript
