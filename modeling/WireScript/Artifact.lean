/-! # Artifacts

The files a run writes. What is digested is every path and every content in the
order of writing, each ended by a zero byte.
-/

namespace WireScript

/-- A file of the generated tree, its path given from the output root. -/
structure Artifact where
  path : String
  contents : String
  deriving DecidableEq

namespace Artifact

/-- A text ended by a zero byte. -/
def ended (text : String) : List UInt8 := text.toUTF8.toList ++ [0]

/-- One file as it is digested. -/
def record (artifact : Artifact) : List UInt8 :=
  ended artifact.path ++ ended artifact.contents

/-- The files of a run as they are digested. -/
def records (artifacts : List Artifact) : List UInt8 :=
  artifacts.flatMap record

end Artifact

end WireScript
