import WireScript.Artifact
import WireScript.Template.Set
import WireScript.Text.Blank

/-! # The registry

The module through which messages find each other by number. It imports every
message module and registers it, in schema order.
-/

namespace WireScript

/-- A message as the registry sees it. -/
structure RegistryEntry where
  id : ProtocolId
  name : String
  directory : String

namespace RegistryEntry

/-- The statement that imports the module of the message. -/
def importStatement (entry : RegistryEntry) : String :=
  if Text.isBlankText entry.directory then
    "import " ++ entry.name ++ " from './" ++ entry.name ++ ".js';"
  else
    "import " ++ entry.name ++ " from './" ++ entry.directory ++ "/" ++ entry.name ++ ".js';"

/-- The statement that registers the message under its number. -/
def registration (entry : RegistryEntry) : String :=
  "protocols.set(" ++ Text.decimal entry.id.toNat ++ ", " ++ entry.name ++ ");"

end RegistryEntry

/-- The path of the registry. -/
def Artifact.registryPath : String := "ProtocolManager.js"

/-- The text of the registry. -/
def TemplateSet.renderRegistry (set : TemplateSet) (entries : List RegistryEntry) :
    Except Fault String :=
  set.registry.render [
    "\n".intercalate (entries.map RegistryEntry.importStatement),
    "\n".intercalate (entries.map RegistryEntry.registration)]

end WireScript
