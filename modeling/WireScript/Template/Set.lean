import WireScript.Storage.FileStore
import WireScript.Template.Embedded

/-! # Template sets

The two templates a run needs, either embedded or read from one directory. A set
is fit for use when each template has as many markers as there are values for
it.
-/

namespace WireScript

/-- The templates of a run. -/
structure TemplateSet where
  message : Template
  registry : Template
  deriving DecidableEq

namespace TemplateSet

/-- The embedded templates. -/
def embedded : TemplateSet where
  message := .embeddedMessage
  registry := .embeddedRegistry

/-- The number of values for the message template. -/
def messageArity : Nat := 12

/-- The number of values for the registry template. -/
def registryArity : Nat := 2

/-- Accept a set whose templates take the values they will be given. -/
def verify (set : TemplateSet) : Except Fault Unit := do
  set.message.checkArity messageArity
  set.registry.checkArity registryArity

variable {m : Type → Type} [Monad m] [FileStore m]

/-- Read a template from a directory. -/
def loadTemplate (directory : Path) (file : String) : m (Except Fault Template) := do
  let path := directory.join file
  match ← FileStore.readText path with
  | .ok text => return .ok (.ofText file text)
  | .error error => return .error (.templateLoad path error)

/-- Read both templates from a directory, the one for messages first. -/
def load (directory : Path) : m (Except Fault TemplateSet) := do
  match ← loadTemplate directory Template.messageFile with
  | .error fault => return .error fault
  | .ok message =>
      match ← loadTemplate directory Template.registryFile with
      | .error fault => return .error fault
      | .ok registry => return .ok ⟨message, registry⟩

end TemplateSet

end WireScript
