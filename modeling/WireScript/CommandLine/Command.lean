import WireScript.CommandLine.Arguments
import WireScript.CommandLine.Failure
import WireScript.Config.Reader
import WireScript.Generator
import WireScript.SchemaFile.Reader

/-! # Commands

`generate` writes the output tree of a schema file, and `check` judges a schema
file without writing anything.
-/

namespace WireScript.CommandLine

/-- What a command leaves behind apart from files. -/
structure Outcome where
  status : Nat
  output : String
  errors : String

/-- A command that may fail. -/
abbrev Attempt (m : Type → Type) (α : Type) := ExceptT Failure m α

/-- Fail in a context when something stopped with a fault. -/
def within {m : Type → Type} [Monad m] {α : Type} (context : String) (result : Except Fault α) :
    Attempt m α :=
  match result with
  | .ok value => return value
  | .error fault => throw (.ofFault context fault)

variable {m : Type → Type} [Monad m] [FileStore m]

/-- The configuration in a file, or the default one. -/
def configFile : Option String → Attempt m Config
  | none => return .default
  | some path => do
      match ← (FileStore.readText ⟨path⟩ : m (Except FileError String)) with
      | .error error => throw (.ofFileError ("Failed to read config: " ++ path) error)
      | .ok text => within ("Failed to parse config: " ++ path) (Config.ofToml text)

/-- The configuration file with the options of the command line over it. -/
def buildConfig (options : GenerateOptions) : Attempt m Config := do
  let config ← configFile options.config
  let config := match options.output with
    | some output => { config with protocolPath := ⟨output⟩ }
    | none => config
  let config ← match options.grouping with
    | some grouping => do
        let policy ← within "Invalid --grouping value" (GroupingPolicy.parse grouping)
        pure { config with grouping := policy }
    | none => pure config
  let config := match options.templates with
    | some templates => { config with templateDirectory := some ⟨templates⟩ }
    | none => config
  within "Invalid generation config" config.validate
  return config

/-- Read a schema file and give its types their meaning. -/
def loadSchema (path : String) : Attempt m ResolvedSchema := do
  let loaded ← (SchemaFile.load ⟨path⟩ : m (Except Fault SchemaFile))
  within ("Failed to load schema: " ++ path) (loaded.bind SchemaFile.resolve)

/-- Write the output tree of a schema file. -/
def generate (options : GenerateOptions) : Attempt m String := do
  let config ← buildConfig options
  let resolved ← loadSchema options.schema
  let (result, _) ←
    ((Generator.generate resolved.schema resolved.documentation).run.run (.ofConfig config) :
      m (Except Fault Report × Generator))
  let report ← within ("Failed to generate protocol into " ++ config.outputRoot.text) result
  return "✓ Generated " ++ Text.decimal report.files.length ++ " files in " ++
    report.outputRoot.text ++ "\n✓ Digest: " ++ report.digest ++ "\n"

/-- What `check` says before it starts. -/
def checkHeading (path : String) : String := "Checking schema: " ++ path ++ "\n"

/-- Judge a schema file. -/
def check (path : String) : Attempt m String := do
  let resolved ← loadSchema path
  let _ ← within "Schema is not valid for generation"
    (Layout.plan Grouping.flat.directory Config.default.nestingLimit resolved.schema)
  let fields := (resolved.schema.messages.flatMap Message.fields).length
  return "✓ Messages: " ++ Text.decimal resolved.schema.messages.length ++
    "\n✓ Fields: " ++ Text.decimal fields ++
    "\n✓ Documented messages: " ++ Text.decimal resolved.documentation.size ++
    "\n\nSchema is valid!\n"

/-- The outcome of a command that says something before it starts. -/
def outcome (heading : String) (result : Except Failure String) : Outcome :=
  match result with
  | .ok output => ⟨0, heading ++ output, ""⟩
  | .error failure => ⟨1, heading, failure.report⟩

/-- How the program is used. -/
def usage : String := Text.paragraph [
  "Usage: protogen [-v] generate -s SCHEMA [-o OUTPUT] [-c CONFIG] [-g GROUPING] [-t TEMPLATES]",
  "       protogen [-v] check -s SCHEMA"]

/-- The version of the program. -/
def version : String := "protogen 0.3.0\n"

/-- Carry out what the arguments ask for. -/
def run (arguments : List String) : m Outcome := do
  match parse arguments with
  | .generate options => return outcome "" (← (generate options).run)
  | .check schema => return outcome (checkHeading schema) (← (check schema).run)
  | .help => return ⟨0, usage, ""⟩
  | .version => return ⟨0, version, ""⟩
  | .invalid => return ⟨2, "", usage⟩

end WireScript.CommandLine
