import WireScript.Generator

/-! # Descriptions for debugging

Generators and tables of strategies as single lines of text.
-/

namespace WireScript

/-- A tag as it is shown in descriptions. -/
def Tag.label : Tag → String
  | .scalar .bool => "Bool"
  | .scalar .byte => "Byte"
  | .scalar .short => "Short"
  | .scalar .int => "Int"
  | .scalar .long => "Long"
  | .scalar .float => "Float"
  | .scalar .double => "Double"
  | .scalar .char => "Char"
  | .scalar .string => "String"
  | .sequence .array => "Array"
  | .sequence .list => "List"
  | .sequence .set => "Set"
  | .map => "Map"
  | .message => "NestedMessage"

/-- The tags a table has strategies for. -/
def Table.description (table : Table) : String :=
  "DispatchTable \x7b kinds: [" ++ ", ".intercalate (table.tags.map Tag.label) ++ "] \x7d"

/-- A policy in one word. -/
def GroupingPolicy.description : GroupingPolicy → String
  | .flat => "Flat"
  | .bucket size => "Bucket(" ++ Text.decimal size.toNat ++ ")"

/-- A path that may be missing. -/
def Path.description : Option Path → String
  | some path => "Some(" ++ Text.quoted path.text ++ ")"
  | none => "None"

/-- The settings of a run. -/
def Config.description (config : Config) : String :=
  "GenerateConfig \x7b protocol_path: " ++ Text.quoted config.protocolPath.text ++
    ", output_dir_name: " ++ Text.quoted config.outputName ++
    ", grouping: " ++ config.grouping.description ++
    ", max_nesting_depth: " ++ Text.decimal config.nestingLimit ++
    ", template_dir: " ++ Path.description config.templateDirectory ++ " \x7d"

/-- The settings of a generator and the output root of its run. -/
def Generator.description (generator : Generator) : String :=
  "GenerationDriver \x7b config: " ++ generator.config.description ++
    ", output_root: " ++ Path.description generator.outputRoot? ++ " \x7d"

end WireScript
