import RespLink.Request.Command

/-!
# Transfers — a command through a buffer of fixed size

Commands that share a connection are written through buffers from a pool, each of the same
capacity. The tokens are collected in the buffer, and whenever the next one would not fit, what
is there is sent first. A command whose largest part fits the buffer never overfills it.
-/

namespace RespLink

namespace Transfer

/-- The slices in which tokens are sent, `buffer` being collected already. -/
def slicesFrom (capacity : Nat) : (buffer : Bytes) → (tokens : List Bytes) → List Bytes
  | buffer, [] => [buffer]
  | buffer, token :: rest =>
    if capacity < buffer.length + tokenSize token then
      buffer :: slicesFrom capacity (bulkFrame token) rest
    else slicesFrom capacity (buffer ++ bulkFrame token) rest

/-- A buffer after it was emptied, filled and sent. -/
structure Outcome where
  /-- What was handed to the stream, piece by piece. -/
  slices : List Bytes
  /-- What the buffer holds afterwards. -/
  buffer : Bytes
  deriving DecidableEq, Repr, Inhabited

/-- Sends a command through a buffer. Whatever the buffer held is forgotten first. -/
def write (capacity : Nat) (_buffer : Bytes) (c : Command) : Outcome :=
  { slices := slicesFrom capacity c.header c.tokens, buffer := [] }

end Transfer

end RespLink
