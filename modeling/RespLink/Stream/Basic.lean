import RespLink.Settings.Basic

/-!
# Streams — the two directions of a byte stream

To a client, a stream is what has arrived and not been taken yet, whether the peer has ended it,
and what was sent. The two directions end independently: a peer that has ended its own can still
be written to.

The stream is simpler than a socket in three ways. Bytes are sent all at once or not at all, so
a failed `send` leaves nothing on the wire. Taking what has arrived does not fail: what a client
sees of a lost connection is that the peer has ended its direction, or that nothing can be sent.
And no clock runs, so that waiting for bytes that do not come is a state of its own.

Where a stream comes from is not for this library to say. `Network` is what dialling an address
leads to, and whoever runs the client supplies it. Dialling takes no time, so it cannot run into
a timeout either.
-/

namespace RespLink

/-- A byte stream, seen from the client. -/
structure Stream where
  /-- What the peer has sent and nobody has taken yet. -/
  arrived : Bytes
  /-- Whether the peer has ended its direction. -/
  ended : Bool
  /-- Everything that was sent, in order. -/
  sent : Bytes
  /-- Whether the client has ended its direction. -/
  shut : Bool
  /-- Whether the peer is gone altogether, so that nothing can be sent. -/
  broken : Bool
  deriving DecidableEq, Repr, Inhabited

namespace Stream

/-- A stream on which the peer has sent some bytes at once. -/
def greeting (arrived : Bytes) : Stream := ⟨arrived, false, [], false, false⟩

/-- The peer sends more bytes. -/
def receive (s : Stream) (bytes : Bytes) : Stream := { s with arrived := s.arrived ++ bytes }

/-- The peer ends its direction. -/
def finish (s : Stream) : Stream := { s with ended := true }

/-- Sends bytes, which fails when either side has seen to it that nothing can be sent. -/
def send (s : Stream) (bytes : Bytes) : Except StreamFault Stream :=
  if s.shut ∨ s.broken then .error .brokenPipe else .ok { s with sent := s.sent ++ bytes }

/-- The client ends its direction. -/
def shutDown (s : Stream) : Stream := { s with shut := true }

end Stream

/-- What dialling an address leads to. -/
inductive Network where
  /-- A peer accepts, and this is the stream to it. -/
  | accepts (stream : Stream)
  /-- Nobody listens there, as it turns out after a while. -/
  | refuses
  /-- No route leads there, as is known at once. -/
  | unreachable
  deriving DecidableEq, Repr, Inhabited

namespace Network

/-- The stream that dialling leads to. -/
def dial : Network → Except Error Stream
  | .accepts stream => .ok stream
  | .refuses => .error (.io .refused)
  | .unreachable => .error (.io .unreachable)

end Network

/-- Opens a stream with settings that pass their check. -/
def Settings.dial (s : Settings) (network : Network) : Except Error Stream :=
  match s.check with
  | .ok () => network.dial
  | .error refusal => .error (.usage refusal)

end RespLink
