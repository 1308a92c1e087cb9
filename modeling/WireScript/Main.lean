import WireScript.CommandLine.Command

/-! # The program

The command line on the files of a disk. Everything it decides is decided by
`CommandLine.run`; this module carries out file operations and prints.
-/

namespace WireScript

/-- The file error that stands for an error of the system. -/
def FileError.ofSystem : IO.Error → FileError
  | .noFileOrDirectory _ _ _ => .notFound
  | .permissionDenied _ _ _ => .permissionDenied
  | .alreadyExists _ _ _ => .alreadyExists
  | .inappropriateType _ code _ => (FileError.ofCode? code.toNat).getD .notADirectory
  | .invalidArgument _ _ _ => .nulInPath
  | .resourceExhausted _ code _ => (FileError.ofCode? code.toNat).getD .nameTooLong
  | _ => .permissionDenied

/-- Carry out a file operation and keep its error as a value. -/
def onDisk {α : Type} (action : IO α) : IO (Except FileError α) := do
  try
    return .ok (← action)
  catch error =>
    return .error (FileError.ofSystem error)

instance : FileStore IO where
  readText path := do
    match ← onDisk (IO.FS.readBinFile path.text) with
    | .error error => return .error error
    | .ok contents =>
        match String.fromUTF8? contents with
        | some text => return .ok text
        | none => return .error .notUnicode
  isPresent path := do
    match ← onDisk (IO.FS.realPath path.text) with
    | .ok _ => return true
    | .error _ => return false
  createAll path := onDisk (IO.FS.createDirAll path.text)
  removeAll path := onDisk (IO.FS.removeDirAll path.text)
  writeText path text := onDisk (IO.FS.writeFile path.text text)

end WireScript

/-- Run the program. -/
def main (arguments : List String) : IO UInt32 := do
  let outcome ← WireScript.CommandLine.run arguments
  IO.print outcome.output
  IO.eprint outcome.errors
  return UInt32.ofNat outcome.status
