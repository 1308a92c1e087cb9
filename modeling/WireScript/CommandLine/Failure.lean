import WireScript.Fault
import WireScript.Text.Split

/-! # Failures of commands

A command that fails says what it was doing and why that failed. A cause of
several lines stays inside its indentation, and causes are numbered when there
are several.
-/

namespace WireScript.CommandLine

/-- What a command was doing, and the causes of its failure, the nearest first. -/
structure Failure where
  context : String
  causes : List String

namespace Failure

/-- The failure of something that stopped with a fault. A fault of the file
system has the error itself as a further cause. -/
def ofFault (context : String) (fault : Fault) : Failure :=
  ⟨context, fault.message :: (fault.fileError?.map FileError.message).toList⟩

/-- The failure of reading a file. -/
def ofFileError (context : String) (error : FileError) : Failure :=
  ⟨context, [error.message]⟩

/-- A text with a first indentation, and another one for its other lines. -/
def indent (first next text : String) : String :=
  first ++ ("\n" ++ next).intercalate ((Text.lines text.toList).map String.ofList)

/-- Causes that are numbered from `n` on. -/
def numbered (n : Nat) : List String → List String
  | [] => []
  | cause :: rest =>
      let number := Text.decimal n
      let margin := String.ofList (List.replicate (5 - number.length) ' ')
      indent (margin ++ number ++ ": ") "       " cause :: numbered (n + 1) rest

/-- The causes, each on lines of its own. -/
def causeLines : List String → List String
  | [cause] => [indent "    " "    " cause]
  | causes => numbered 0 causes

/-- The report of a failure. -/
def report (failure : Failure) : String :=
  "Error: " ++ failure.context ++ "\n\nCaused by:\n" ++
    String.join ((causeLines failure.causes).map (· ++ "\n"))

end Failure

end WireScript.CommandLine
