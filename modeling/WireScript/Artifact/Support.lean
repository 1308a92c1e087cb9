import WireScript.Artifact
import WireScript.Text.Paragraph

/-! # Support files

The modules every generated tree comes with: the buffer that generated code
reads from and writes to, and its integers of 64 bits.
-/

namespace WireScript.Artifact

/-- The module of the buffer. -/
def byteBuffer : String := Text.paragraph [
  "import ProtocolManager from '../ProtocolManager.js';",
  "import Longbits from './longbits.js';",
  "",
  "const emptyString = '';",
  "const initSize = 128;",
  "const maxSize = 655537;",
  "",
  "const maxShort = 32767;",
  "const minShort = -32768;",
  "",
  "const maxInt = 2147483647;",
  "const minInt = -2147483648;",
  "",
  "const copy = function(original, newLength) \x7b",
  "    if (original.byteLength > newLength) \x7b",
  "        throw new Error('newLength is too small');",
  "    \x7d",
  "    const dst = new ArrayBuffer(newLength);",
  "    new Uint8Array(dst).set(new Uint8Array(original));",
  "    return dst;",
  "\x7d;",
  "",
  "// UTF-8 without TextEncoder/TextDecoder, so the runtime needs only ECMAScript built-ins.",
  "function encodeUtf8(value) \x7b",
  "    const bytes = [];",
  "    for (const ch of value) \x7b",
  "        const code = ch.codePointAt(0);",
  "        if (code < 0x80) \x7b",
  "            bytes.push(code);",
  "        \x7d else if (code < 0x800) \x7b",
  "            bytes.push(0xC0 | (code >> 6), 0x80 | (code & 0x3F));",
  "        \x7d else if (code < 0x10000) \x7b",
  "            bytes.push(0xE0 | (code >> 12), 0x80 | ((code >> 6) & 0x3F), 0x80 | (code & 0x3F));",
  "        \x7d else \x7b",
  "            bytes.push(0xF0 | (code >> 18), 0x80 | ((code >> 12) & 0x3F),",
  "                0x80 | ((code >> 6) & 0x3F), 0x80 | (code & 0x3F));",
  "        \x7d",
  "    \x7d",
  "    return bytes;",
  "\x7d",
  "",
  "function decodeUtf8(bytes) \x7b",
  "    let result = '';",
  "    let i = 0;",
  "    while (i < bytes.length) \x7b",
  "        const b = bytes[i++];",
  "        let code;",
  "        if (b < 0x80) \x7b",
  "            code = b;",
  "        \x7d else if (b < 0xE0) \x7b",
  "            code = ((b & 0x1F) << 6) | (bytes[i++] & 0x3F);",
  "        \x7d else if (b < 0xF0) \x7b",
  "            code = ((b & 0x0F) << 12) | ((bytes[i++] & 0x3F) << 6) | (bytes[i++] & 0x3F);",
  "        \x7d else \x7b",
  "            code = ((b & 0x07) << 18) | ((bytes[i++] & 0x3F) << 12) |",
  "                ((bytes[i++] & 0x3F) << 6) | (bytes[i++] & 0x3F);",
  "        \x7d",
  "        result += String.fromCodePoint(code);",
  "    \x7d",
  "    return result;",
  "\x7d",
  "",
  "function encodeZigzagInt(n) \x7b",
  "    return (n << 1) ^ (n >> 31);",
  "\x7d",
  "",
  "function decodeZigzagInt(n) \x7b",
  "    return (n >>> 1) ^ -(n & 1);",
  "\x7d",
  "",
  "const ByteBuffer = function() \x7b",
  "    this.writeOffset = 0;",
  "    this.readOffset = 0;",
  "    this.buffer = new ArrayBuffer(initSize);",
  "    this.bufferView = new DataView(this.buffer, 0, this.buffer.byteLength);",
  "\x7d;",
  "",
  "ByteBuffer.prototype.setWriteOffset = function(writeOffset) \x7b",
  "    if (writeOffset > this.buffer.byteLength) \x7b",
  "        throw new Error('index out of bounds exception: writeOffset ' + writeOffset +",
  "            ' exceeds capacity ' + this.buffer.byteLength);",
  "    \x7d",
  "    this.writeOffset = writeOffset;",
  "\x7d;",
  "",
  "ByteBuffer.prototype.setReadOffset = function(readOffset) \x7b",
  "    if (readOffset > this.writeOffset) \x7b",
  "        throw new Error('index out of bounds exception: readOffset ' + readOffset +",
  "            ' exceeds writeOffset ' + this.writeOffset);",
  "    \x7d",
  "    this.readOffset = readOffset;",
  "\x7d;",
  "",
  "ByteBuffer.prototype.getCapacity = function() \x7b",
  "    return this.buffer.byteLength - this.writeOffset;",
  "\x7d;",
  "",
  "ByteBuffer.prototype.ensureCapacity = function(minCapacity) \x7b",
  "    while (minCapacity - this.getCapacity() > 0) \x7b",
  "        const newSize = this.buffer.byteLength * 2;",
  "        if (newSize > maxSize) \x7b",
  "            throw new Error('out of memory error');",
  "        \x7d",
  "        this.buffer = copy(this.buffer, newSize);",
  "        this.bufferView = new DataView(this.buffer, 0, this.buffer.byteLength);",
  "    \x7d",
  "\x7d;",
  "",
  "ByteBuffer.prototype.isReadable = function() \x7b",
  "    return this.writeOffset > this.readOffset;",
  "\x7d;",
  "",
  "ByteBuffer.prototype.writeBytes = function(byteArray) \x7b",
  "    const length = byteArray.byteLength;",
  "    this.ensureCapacity(length);",
  "    new Uint8Array(this.buffer).set(new Uint8Array(byteArray), this.writeOffset);",
  "    this.writeOffset += length;",
  "\x7d;",
  "",
  "ByteBuffer.prototype.toBytes = function() \x7b",
  "    return this.buffer.slice(0, this.writeOffset);",
  "\x7d;",
  "",
  "ByteBuffer.prototype.writeBoolean = function(value) \x7b",
  "    this.ensureCapacity(1);",
  "    this.bufferView.setInt8(this.writeOffset, value ? 1 : 0);",
  "    this.writeOffset++;",
  "\x7d;",
  "",
  "ByteBuffer.prototype.readBoolean = function() \x7b",
  "    const value = this.bufferView.getInt8(this.readOffset);",
  "    this.readOffset++;",
  "    return value === 1;",
  "\x7d;",
  "",
  "ByteBuffer.prototype.writeByte = function(value) \x7b",
  "    this.ensureCapacity(1);",
  "    this.bufferView.setInt8(this.writeOffset, value);",
  "    this.writeOffset++;",
  "\x7d;",
  "",
  "ByteBuffer.prototype.readByte = function() \x7b",
  "    const value = this.bufferView.getInt8(this.readOffset);",
  "    this.readOffset++;",
  "    return value;",
  "\x7d;",
  "",
  "ByteBuffer.prototype.writeShort = function(value) \x7b",
  "    if (!(minShort <= value && value <= maxShort)) \x7b",
  "        throw new Error('value must range between minShort:-32768 and maxShort:32767');",
  "    \x7d",
  "    this.ensureCapacity(2);",
  "    this.bufferView.setInt16(this.writeOffset, value);",
  "    this.writeOffset += 2;",
  "\x7d;",
  "",
  "ByteBuffer.prototype.readShort = function() \x7b",
  "    const value = this.bufferView.getInt16(this.readOffset);",
  "    this.readOffset += 2;",
  "    return value;",
  "\x7d;",
  "",
  "ByteBuffer.prototype.writeInt = function(value) \x7b",
  "    if (!(minInt <= value && value <= maxInt)) \x7b",
  "        throw new Error('value must range between minInt:-2147483648 and maxInt:2147483647');",
  "    \x7d",
  "    this.ensureCapacity(5);",
  "",
  "    value = encodeZigzagInt(value);",
  "    while ((value & ~0x7F) !== 0) \x7b",
  "        this.writeByte((value & 0x7F) | 0x80);",
  "        value >>>= 7;",
  "    \x7d",
  "    this.writeByte(value);",
  "\x7d;",
  "",
  "ByteBuffer.prototype.readInt = function() \x7b",
  "    let value = 0;",
  "    for (let shift = 0; shift < 35; shift += 7) \x7b",
  "        const b = this.readByte();",
  "        value |= (b & 0x7F) << shift;",
  "        if ((b & 0x80) === 0) \x7b",
  "            break;",
  "        \x7d",
  "    \x7d",
  "    return decodeZigzagInt(value);",
  "\x7d;",
  "",
  "ByteBuffer.prototype.writeLong = function(value) \x7b",
  "    if (value === null || value === undefined) \x7b",
  "        throw new Error('value must not be null');",
  "    \x7d",
  "    this.ensureCapacity(10);",
  "    Longbits.writeInt64(this, value);",
  "\x7d;",
  "",
  "ByteBuffer.prototype.readLong = function() \x7b",
  "    return Longbits.readInt64(this);",
  "\x7d;",
  "",
  "ByteBuffer.prototype.writeFloat = function(value) \x7b",
  "    if (value === null || value === undefined) \x7b",
  "        throw new Error('value must not be null');",
  "    \x7d",
  "    this.ensureCapacity(4);",
  "    this.bufferView.setFloat32(this.writeOffset, value);",
  "    this.writeOffset += 4;",
  "\x7d;",
  "",
  "ByteBuffer.prototype.readFloat = function() \x7b",
  "    const value = this.bufferView.getFloat32(this.readOffset);",
  "    this.readOffset += 4;",
  "    return value;",
  "\x7d;",
  "",
  "ByteBuffer.prototype.writeDouble = function(value) \x7b",
  "    if (value === null || value === undefined) \x7b",
  "        throw new Error('value must not be null');",
  "    \x7d",
  "    this.ensureCapacity(8);",
  "    this.bufferView.setFloat64(this.writeOffset, value);",
  "    this.writeOffset += 8;",
  "\x7d;",
  "",
  "ByteBuffer.prototype.readDouble = function() \x7b",
  "    const value = this.bufferView.getFloat64(this.readOffset);",
  "    this.readOffset += 8;",
  "    return value;",
  "\x7d;",
  "",
  "ByteBuffer.prototype.writeChar = function(value) \x7b",
  "    if (value === null || value === undefined || value.length === 0) \x7b",
  "        this.writeString(emptyString);",
  "        return;",
  "    \x7d",
  "    this.writeString(String.fromCodePoint(value.codePointAt(0)));",
  "\x7d;",
  "",
  "ByteBuffer.prototype.readChar = function() \x7b",
  "    return this.readString();",
  "\x7d;",
  "",
  "ByteBuffer.prototype.writeString = function(value) \x7b",
  "    if (value === null || value === undefined || value.length === 0) \x7b",
  "        this.writeInt(0);",
  "        return;",
  "    \x7d",
  "    const bytes = encodeUtf8(value);",
  "    this.ensureCapacity(5 + bytes.length);",
  "    this.writeInt(bytes.length);",
  "    bytes.forEach(b => this.writeByte(b));",
  "\x7d;",
  "",
  "ByteBuffer.prototype.readString = function() \x7b",
  "    const length = this.readInt();",
  "    if (length <= 0) \x7b",
  "        return emptyString;",
  "    \x7d",
  "    const bytes = new Uint8Array(this.buffer.slice(this.readOffset, this.readOffset + length));",
  "    this.readOffset += length;",
  "    return decodeUtf8(bytes);",
  "\x7d;",
  "",
  "// Presence flag: returns true when the packet is absent and nothing more follows.",
  "ByteBuffer.prototype.writePacketFlag = function(packet) \x7b",
  "    const absent = packet === null || packet === undefined;",
  "    this.writeBoolean(!absent);",
  "    return absent;",
  "\x7d;",
  "",
  "ByteBuffer.prototype.writePacket = function(packet, protocolId) \x7b",
  "    const protocol = ProtocolManager.getProtocol(protocolId);",
  "    protocol.write(this, packet);",
  "\x7d;",
  "",
  "ByteBuffer.prototype.readPacket = function(protocolId) \x7b",
  "    const protocol = ProtocolManager.getProtocol(protocolId);",
  "    return protocol.read(this);",
  "\x7d;",
  "",
  "export default ByteBuffer;"]

/-- The module of 64-bit integers. -/
def longbits : String := Text.paragraph [
  "// 64-bit zigzag varint encoding on top of BigInt.",
  "",
  "const mask64 = (1n << 64n) - 1n;",
  "",
  "function encodeZigzag64(value) \x7b",
  "    const n = BigInt.asIntN(64, BigInt(value));",
  "    return ((n << 1n) ^ (n >> 63n)) & mask64;",
  "\x7d",
  "",
  "function decodeZigzag64(value) \x7b",
  "    return BigInt.asIntN(64, (value >> 1n) ^ -(value & 1n));",
  "\x7d",
  "",
  "const Longbits = \x7b",
  "    writeInt64(buffer, value) \x7b",
  "        let n = encodeZigzag64(value);",
  "        while (n > 0x7Fn) \x7b",
  "            buffer.writeByte(Number((n & 0x7Fn) | 0x80n) << 24 >> 24);",
  "            n >>= 7n;",
  "        \x7d",
  "        buffer.writeByte(Number(n) << 24 >> 24);",
  "    \x7d,",
  "",
  "    readInt64(buffer) \x7b",
  "        let value = 0n;",
  "        for (let shift = 0n; shift < 70n; shift += 7n) \x7b",
  "            const b = buffer.readByte() & 0xFF;",
  "            value |= BigInt(b & 0x7F) << shift;",
  "            if ((b & 0x80) === 0) \x7b",
  "                break;",
  "            \x7d",
  "        \x7d",
  "        const result = decodeZigzag64(value & mask64);",
  "        if (result >= BigInt(Number.MIN_SAFE_INTEGER) && result <= BigInt(Number.MAX_SAFE_INTEGER)) \x7b",
  "            return Number(result);",
  "        \x7d",
  "        return result.toString();",
  "    \x7d",
  "\x7d;",
  "",
  "export default Longbits;"]

/-- The support files in the order they are written. -/
def support : List Artifact :=
  [⟨"buffer/ByteBuffer.js", byteBuffer⟩, ⟨"buffer/longbits.js", longbits⟩]

end WireScript.Artifact
