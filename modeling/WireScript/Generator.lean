import WireScript.Artifact.Module
import WireScript.Artifact.Registry
import WireScript.Artifact.Support
import WireScript.Config
import WireScript.Digest.Sha256
import WireScript.Layout

/-! # Generators

A generator holds its settings and, between the start and the end of a run, what
the run has written so far. A run deletes and recreates the output root, writes
the support files, the registry and the message modules, and ends with a report.
Only writes that succeeded are reported.
-/

namespace WireScript

/-- A run that has been started. -/
structure Run where
  outputRoot : Path
  templates : TemplateSet
  grouping : Grouping
  written : List Artifact

/-- The settings of a generator and its run, if there is one. -/
structure Generator where
  config : Config
  run : Option Run

/-- What a completed run wrote. -/
structure Report where
  outputRoot : Path
  files : List String
  digest : String
  deriving DecidableEq

/-- A step of a generator. What was changed before a fault stays changed. -/
abbrev Step (m : Type → Type) (α : Type) := ExceptT Fault (StateT Generator m) α

namespace Run

/-- The report of a run. -/
def report (run : Run) : Report where
  outputRoot := run.outputRoot
  files := run.written.map Artifact.path
  digest := Digest.sha256 (Artifact.records run.written)

/-- The entry of a message in the registry. -/
def registryEntry (run : Run) (message : Message) : RegistryEntry :=
  ⟨message.id, message.name, run.grouping.directory message.id⟩

/-- The registry of a schema. -/
def registry (run : Run) (schema : Schema) : Except Fault Artifact := do
  let text ← run.templates.renderRegistry (schema.messages.map run.registryEntry)
  return ⟨Artifact.registryPath, text⟩

/-- The module of a message. -/
def messageModule (run : Run) (limit : Nat) (message : Message) (document : Document) :
    Except Fault Artifact := do
  let blocks ← (Blocks.ofMessage Table.full message document (Context.ofLimit limit)).1
  let text ← run.templates.renderMessage message.name message.id document.title blocks
  return ⟨Layout.messagePath (run.grouping.directory message.id) message.name, text⟩

end Run

namespace Generator

/-- A generator without a run. -/
def ofConfig (config : Config) : Generator := ⟨config, none⟩

/-- The output root of the run, if there is one. -/
def outputRoot? (generator : Generator) : Option Path :=
  generator.run.map Run.outputRoot

variable {m : Type → Type} [Monad m] [FileStore m]

/-- Do something that may stop with a fault. -/
def check {α : Type} (result : Except Fault α) : Step m α :=
  match result with
  | .ok value => return value
  | .error fault => throw fault

/-- Do something with the files, which cannot stop the step by itself. -/
def files {α : Type} (action : m α) : Step m α :=
  ExceptT.lift (StateT.lift action)

/-- Do something with the files at a path. -/
def atPath (path : Path) (action : m (Except FileError Unit)) : Step m Unit := do
  match ← files action with
  | .ok () => return ()
  | .error error => throw (.io path error)

/-- The run, without which nothing can be written. -/
def currentRun : Step m Run := do
  match (← get).run with
  | some run => return run
  | none => throw .notInitialized

/-- The templates of a configuration. -/
def templates (config : Config) : Step m TemplateSet :=
  match config.templateDirectory with
  | none => return .embedded
  | some directory => do
      let loaded ← files (TemplateSet.load directory)
      check loaded

/-- Delete a directory, if it is there, and create it anew. -/
def resetDirectory (path : Path) : Step m Unit := do
  if ← files (FileStore.isPresent path) then
    atPath path (FileStore.removeAll path)
  atPath path (FileStore.createAll path)

/-- Start a run. Settings and templates are judged before anything is deleted. -/
def init : Step m Unit := do
  let config := (← get).config
  check config.validate
  let templates ← templates config
  check templates.verify
  let grouping ← check config.grouping.build
  resetDirectory config.outputRoot
  modify (fun generator =>
    { generator with run := some ⟨config.outputRoot, templates, grouping, []⟩ })

/-- Write a file of the run and record it. -/
def write (artifact : Artifact) : Step m Unit := do
  let run ← currentRun
  let path := run.outputRoot.join artifact.path
  if let some parent := path.parent? then
    atPath parent (FileStore.createAll parent)
  atPath path (FileStore.writeText path artifact.contents)
  modify (fun generator =>
    { generator with run := some { run with written := run.written ++ [artifact] } })

/-- Write files in order. -/
def writeAll : List Artifact → Step m Unit
  | [] => return ()
  | artifact :: rest => do
      write artifact
      writeAll rest

/-- Write the support files and the registry of a schema. -/
def generateRegistry (schema : Schema) : Step m Unit := do
  let run ← currentRun
  writeAll Artifact.support
  write (← check (run.registry schema))

/-- Write the module of a message. -/
def generateMessage (message : Message) (documentation : Documentation) : Step m Unit := do
  let run ← currentRun
  let limit := (← get).config.nestingLimit
  write (← check (run.messageModule limit message (documentation.document message.id)))

/-- Write the modules of messages in order. -/
def generateMessages (documentation : Documentation) : List Message → Step m Unit
  | [] => return ()
  | message :: rest => do
      generateMessage message documentation
      generateMessages documentation rest

/-- Give up the run. -/
def clear : Step m Unit :=
  modify (fun generator => { generator with run := none })

/-- End the run and report what it wrote. -/
def finish : Step m Report := do
  let run ← currentRun
  clear
  return run.report

/-- The steps of a whole run. -/
def runAll (schema : Schema) (documentation : Documentation) : Step m Report := do
  init
  generateRegistry schema
  generateMessages documentation schema.messages
  finish

/-- Plan, and then run from start to end. A fault of the run gives it up; one
found while planning comes before the run and leaves an earlier one alone. -/
def generate (schema : Schema) (documentation : Documentation) : Step m Report := do
  let config := (← get).config
  check config.validate
  let grouping ← check config.grouping.build
  let _ ← check (Layout.plan grouping.directory config.nestingLimit schema)
  tryCatch (runAll schema documentation) (fun fault => do
    clear
    throw fault)

end Generator

end WireScript
