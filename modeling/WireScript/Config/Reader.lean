import WireScript.Config
import WireScript.Data.Json
import WireScript.Data.Toml

/-! # Reading configurations

Configurations are records of five members, every one of which may be missing.
-/

namespace WireScript

/-- A policy is the word `flat`, or a record with one member: `flat` without
content or `bucket` with a size. -/
def GroupingPolicy.ofData? (dialect : Dialect) : Data → Option GroupingPolicy
  | .text (some "flat") => some .flat
  | .record [(some "flat", content)] => if dialect.isUnit content then some .flat else none
  | .record [(some "bucket", size)] => size.protocolId?.map .bucket
  | _ => none

namespace Config

/-- The members of a configuration in order. -/
def memberNames : List String :=
  ["protocol_path", "output_dir_name", "grouping", "max_nesting_depth", "template_dir"]

/-- The largest nesting limit that can be written. -/
def maxNestingLimit : Nat := UInt64.size - 1

/-- A path that may be null. -/
def path? : Data → Option (Option Path)
  | .null => some none
  | data => data.text?.map (fun text => some ⟨text⟩)

/-- The configuration in a value. -/
def ofData? (dialect : Dialect) (data : Data) : Option Config := do
  match ← data.members? dialect memberNames with
  | [protocolPath, outputName, grouping, nestingLimit, templateDirectory] =>
      some {
        protocolPath := ←
          Data.optional (fun data => data.text?.map Path.mk) default.protocolPath protocolPath
        outputName := ← Data.optional Data.text? default.outputName outputName
        grouping := ← Data.optional (GroupingPolicy.ofData? dialect) default.grouping grouping
        nestingLimit := ←
          Data.optional (Data.natural? maxNestingLimit) default.nestingLimit nestingLimit
        templateDirectory := ←
          Data.optional path? default.templateDirectory templateDirectory }
  | _ => none

/-- Read JSON. Nothing at all is the default configuration. -/
def ofJson (bytes : List UInt8) : Except Fault Config :=
  if bytes.isEmpty then .ok default
  else
    match (Data.Json.read? bytes).bind (ofData? Data.Json.dialect) with
    | some config => .ok config
    | none => .error (.config (.unreadable .json))

/-- Read TOML. -/
def ofToml (text : String) : Except Fault Config :=
  match (Data.Toml.read? text).bind (ofData? Data.Toml.dialect) with
  | some config => .ok config
  | none => .error (.config (.unreadable .toml))

end Config

end WireScript
