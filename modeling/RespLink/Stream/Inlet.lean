import RespLink.Frame.Stream
import RespLink.Stream.Basic

/-!
# Inlets — frames out of a stream

An inlet takes bytes off a stream and answers with one frame at a time. It decodes what is
buffered before it takes more, so a frame that has arrived is never kept waiting for the next.
When the peer ends the stream it decodes once more; bytes that are left over then were cut off.

What has arrived is taken at once, however much it is. A client with a buffer of some size takes
it in parts, which are arrivals of their own here.

After a failure the inlet reports the end of the stream once, on the very next call, and then
carries on. A client that stops at the first failure does not notice.
-/

namespace RespLink

/-- What comes out of an inlet. -/
inductive Intake where
  | frame (r : Reply)
  | failure (e : Error)
  /-- The stream has ended between two frames. -/
  | finished
  /-- Nothing yet: the peer has to send more first. -/
  | pending
  deriving DecidableEq, Repr, Inhabited

/-- The state of taking frames off a stream. -/
structure Inlet where
  decoder : Decoder
  /-- Whether the buffer may hold a frame that nobody has looked for. -/
  ready : Bool
  /-- Whether the end of the stream has been seen. -/
  atEnd : Bool
  /-- Whether the last answer was a failure. -/
  failed : Bool
  deriving DecidableEq, Repr, Inhabited

namespace Inlet

/-- An inlet with nothing buffered. -/
def start (limit : Nat) : Inlet := ⟨Decoder.empty limit, false, false, false⟩

/-- Decodes once more at the end of the stream. -/
def atLast (i : Inlet) : Intake × Inlet :=
  match i.decoder.next with
  | (.ok (some r), decoder) => (.frame r, { i with decoder })
  | (.error fault, decoder) => (.failure (.protocol fault), { i with decoder, failed := true })
  | (.ok none, decoder) =>
    if decoder.buffer.isEmpty then (.finished, { i with decoder, ready := false })
    else (.failure (.io .cutOff), { i with decoder, failed := true })

/-- Goes on when nothing more has arrived: the stream has ended, or it has not. -/
def awaitMore (i : Inlet) (s : Stream) : Intake × Inlet × Stream :=
  if s.ended then
    if i.atEnd then (.finished, i, s)
    else
      let (intake, i) := atLast { i with atEnd := true, ready := true }
      (intake, i, s)
  else (.pending, i, s)

/-- Decodes what is buffered, and if that is no frame goes on as `otherwise` says. -/
def decodeOr (i : Inlet) (s : Stream) (otherwise : Inlet → Stream → Intake × Inlet × Stream) :
    Intake × Inlet × Stream :=
  match i.decoder.next with
  | (.ok (some r), decoder) => (.frame r, { i with decoder }, s)
  | (.error fault, decoder) => (.failure (.protocol fault), { i with decoder, failed := true }, s)
  | (.ok none, decoder) => otherwise { i with decoder, ready := false } s

/-- Takes everything that has arrived and decodes it. -/
def fetch (i : Inlet) (s : Stream) : Intake × Inlet × Stream :=
  if s.arrived.isEmpty then i.awaitMore s
  else
    decodeOr { i with decoder := i.decoder.feed s.arrived, ready := true, atEnd := false }
      { s with arrived := [] } awaitMore

/-- The next frame, or why there is none. -/
def next (i : Inlet) (s : Stream) : Intake × Inlet × Stream :=
  if i.failed then (.finished, { i with failed := false, ready := false }, s)
  else if i.ready then
    if i.atEnd then
      let (intake, i) := i.atLast
      (intake, i, s)
    else i.decodeOr s fetch
  else i.fetch s

end Inlet

end RespLink
