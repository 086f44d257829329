import RespLink.Frame.Reader

/-!
# Decoding a stream — frames as their bytes arrive

Bytes arrive in pieces that have nothing to do with frames. They are appended to a buffer, and
`Decoder.next` takes one frame off its front when the whole of it is there. Until then, and
after a fault, the buffer stays as it is.

A peer could announce a frame without end. The decoder gives up on one that is still unfinished
when more than `limit` bytes are buffered.
-/

namespace RespLink

/-- A buffer of bytes that frames are decoded from, and the number of bytes it may hold for a
    frame that is not finished. -/
structure Decoder where
  limit : Nat
  buffer : Bytes
  deriving DecidableEq, Repr, Inhabited

namespace Decoder

/-- The limit on an unfinished frame unless another is given: 512 MiB. -/
def defaultLimit : Nat := 512 * 1024 * 1024

/-- A decoder with nothing buffered. -/
def empty (limit : Nat) : Decoder := ⟨limit, []⟩

/-- Bytes that have arrived. -/
def feed (d : Decoder) (bytes : Bytes) : Decoder := { d with buffer := d.buffer ++ bytes }

/-- The next frame if it is complete, and the decoder without it. On a fault the decoder is as
    before. -/
def next (d : Decoder) : Except FrameFault (Option Reply) × Decoder :=
  if d.buffer.isEmpty then (.ok none, d)
  else
    match Reply.read d.buffer with
    | .ok (r, rest) => (.ok (some r), { d with buffer := rest })
    | .error .incomplete =>
      if d.limit < d.buffer.length then (.error (.tooLarge d.limit), d) else (.ok none, d)
    | .error fault => (.error fault, d)

end Decoder

end RespLink
