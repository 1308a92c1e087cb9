import WireScript.Template
import WireScript.Text.Paragraph

/-! # Embedded templates

The templates used when no directory of templates is given: one for the module
of a message, one for the registry of all messages. They are given as the text
after each marker, which is what the value of the marker is followed by.
-/

namespace WireScript.Template

/-- The file name of the template for a message. -/
def messageFile : String := "ProtocolTemplate.js"

/-- The file name of the template for the registry. -/
def registryFile : String := "ProtocolManagerTemplate.js"

/-- The embedded template for a message. -/
def embeddedMessage : Template where
  name := messageFile
  head := ""
  tail := [
    -- the title
    "const ",
    -- the name
    " = function(",
    -- the parameters
    ") \x7b\n    ",
    -- the constructor
    "\n\x7d;\n\n",
    -- the name
    ".prototype.protocolId = function() \x7b\n    return ",
    -- the number
    ";\n\x7d;\n\n",
    -- the name
    Text.paragraph [
      ".write = function(buffer, packet) \x7b",
      "    if (buffer.writePacketFlag(packet)) \x7b",
      "        return;",
      "    \x7d"] ++ "    ",
    -- the write block
    "\n\x7d;\n\n",
    -- the name
    Text.paragraph [
      ".read = function(buffer) \x7b",
      "    if (!buffer.readBoolean()) \x7b",
      "        return null;",
      "    \x7d"] ++ "    const packet = new ",
    -- the name
    "();\n    ",
    -- the read block
    "\n    return packet;\n\x7d;\n\nexport default ",
    -- the name
    ";\n"]

/-- The embedded template for the registry. -/
def embeddedRegistry : Template where
  name := registryFile
  head := ""
  tail := [
    -- the imports
    "\n\nconst protocols = new Map();\n\n// initProtocol\n",
    -- the registrations
    Text.paragraph [
      "",
      "",
      "const ProtocolManager = \x7b",
      "    getProtocol(protocolId) \x7b",
      "        const protocol = protocols.get(protocolId);",
      "        if (protocol === undefined) \x7b",
      "            throw new Error('[protocolId:' + protocolId + '] not exist');",
      "        \x7d",
      "        return protocol;",
      "    \x7d,",
      "",
      "    write(buffer, packet) \x7b",
      "        const protocolId = packet.protocolId();",
      "        buffer.writeShort(protocolId);",
      "        const protocol = ProtocolManager.getProtocol(protocolId);",
      "        protocol.write(buffer, packet);",
      "    \x7d,",
      "",
      "    read(buffer) \x7b",
      "        const protocolId = buffer.readShort();",
      "        const protocol = ProtocolManager.getProtocol(protocolId);",
      "        return protocol.read(buffer);",
      "    \x7d",
      "\x7d;",
      "",
      "export default ProtocolManager;"]]

end WireScript.Template
