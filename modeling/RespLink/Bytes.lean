/-!
# `Bytes` — the stream as a list

Everything that crosses the wire is a list of bytes: a frame is recognised at the front of one,
a reader answers with what it left over, and "nothing was lost" is an equation between
concatenations. The two line-end bytes are named here because every other module cuts at them.
-/

namespace RespLink

/-- A byte string: a request, a reply, or what is buffered of either. -/
abbrev Bytes := List UInt8

namespace Bytes

/-- Carriage return. -/
def cr : UInt8 := 13

/-- Line feed. -/
def lf : UInt8 := 10

/-- The end of a line on the wire. -/
def crlf : Bytes := [cr, lf]

/-- The byte of an ASCII character. -/
def ascii (c : Char) : UInt8 := c.toNat.toUInt8

end Bytes

end RespLink
