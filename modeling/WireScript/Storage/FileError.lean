/-! # File errors

The ways an operation on files fails, with the words the system has for them.
-/

namespace WireScript

/-- Why a file operation failed. -/
inductive FileError where
  | notFound
  | permissionDenied
  | alreadyExists
  | notADirectory
  | isADirectory
  | nameTooLong
  | nulInPath
  | notUnicode
  deriving DecidableEq

namespace FileError

/-- What the error says. Errors of the system carry their number. -/
def message : FileError → String
  | .notFound => "No such file or directory (os error 2)"
  | .permissionDenied => "Permission denied (os error 13)"
  | .alreadyExists => "File exists (os error 17)"
  | .notADirectory => "Not a directory (os error 20)"
  | .isADirectory => "Is a directory (os error 21)"
  | .nameTooLong => "File name too long (os error 36)"
  | .nulInPath => "file name contained an unexpected NUL byte"
  | .notUnicode => "stream did not contain valid UTF-8"

/-- The error a number of the system stands for. -/
def ofCode? : Nat → Option FileError
  | 2 => some .notFound
  | 13 => some .permissionDenied
  | 17 => some .alreadyExists
  | 20 => some .notADirectory
  | 21 => some .isADirectory
  | 36 => some .nameTooLong
  | _ => none

end FileError

end WireScript
