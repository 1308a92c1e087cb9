import WireScript.Grouping
import WireScript.Storage.Path

/-! # Configurations

The settings of a run. The output root is deleted at the start of a run, so a
configuration is accepted only when the root is a directory of its own below the
protocol path.
-/

namespace WireScript

/-- The settings of a run. -/
structure Config where
  protocolPath : Path
  outputName : String
  grouping : GroupingPolicy
  nestingLimit : Nat
  templateDirectory : Option Path
  deriving DecidableEq

namespace Config

/-- The settings that hold when nothing else is said. -/
def default : Config where
  protocolPath := ⟨"."⟩
  outputName := "jsProtocol"
  grouping := .flat
  nestingLimit := 32
  templateDirectory := none

/-- The directory every artifact is written below. -/
def outputRoot (config : Config) : Path := config.protocolPath.join config.outputName

/-- The first issue of a configuration. -/
def issue? (config : Config) : Option ConfigIssue :=
  let name := Text.strip Text.isBlank config.outputName.toList
  if name = [] || name = ['.'] || name = ['.', '.'] then
    some (.outputNameNotDedicated config.outputName)
  else if name.any (fun c => c == '/' || c == '\\') then
    some (.outputNameNotSegment config.outputName)
  else if config.nestingLimit = 0 then some .nestingLimitZero
  else none

/-- Accept a configuration or report its first issue. -/
def validate (config : Config) : Except Fault Unit :=
  match config.issue? with
  | some issue => .error (.config issue)
  | none => .ok ()

end Config

end WireScript
