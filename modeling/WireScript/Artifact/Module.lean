import WireScript.Artifact
import WireScript.Emission.Blocks
import WireScript.Template.Set

/-! # Message modules

The module of a message: its blocks between the literal parts of the message
template. The template indents the first line of a block itself, so blocks are
trimmed before they are inserted.
-/

namespace WireScript.TemplateSet

/-- The title of a message as comment lines. -/
def titleText (title : String) : String :=
  String.join ((Comment.lines title).map (· ++ "\n"))

/-- The text of the module of a message. -/
def renderMessage (set : TemplateSet) (name : String) (id : ProtocolId) (title : String)
    (blocks : Blocks) : Except Fault String :=
  set.message.render [
    titleText title,
    name,
    blocks.parameters,
    Text.trim blocks.constructor.render,
    name,
    Text.decimal id.toNat,
    name,
    Text.trim blocks.write.render,
    name,
    name,
    Text.trim blocks.read.render,
    name]

end WireScript.TemplateSet
