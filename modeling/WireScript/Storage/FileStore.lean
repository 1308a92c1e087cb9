import WireScript.Storage.FileError
import WireScript.Storage.Path

/-! # File stores

What the generator asks of the place its files are in. The generator is written
against this interface, so the same code runs on a disk and on a tree of files
held as a value.
-/

namespace WireScript

/-- File operations of a monad. Each reports its failure and leaves the caller
to say what was being done. -/
class FileStore (m : Type → Type) where
  /-- The text of a file. -/
  readText : Path → m (Except FileError String)
  /-- Whether a file or a directory is there. -/
  isPresent : Path → m Bool
  /-- Create a directory and those on the way to it. -/
  createAll : Path → m (Except FileError Unit)
  /-- Remove a directory with everything below it. -/
  removeAll : Path → m (Except FileError Unit)
  /-- Create or replace a file. -/
  writeText : Path → String → m (Except FileError Unit)

end WireScript
