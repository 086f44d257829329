import RespLink.Error
import RespLink.Frame.Stream

/-!
# Settings — how to connect and how much to hold

Every way of connecting takes the same settings. Building them never fails; `Settings.check`
refuses those that no connection can be made with, and it is asked before any stream is opened.
-/

namespace RespLink

/-- How to connect and how much to hold. -/
structure Settings where
  host : String
  port : Nat
  /-- Whether the stream is to be encrypted, which this client cannot do. -/
  tls : Bool
  /-- Sent once, right after connecting. -/
  password : Option String
  connectTimeout : Span
  /-- How long to wait for each frame; without it, for ever. -/
  readTimeout : Option Span
  /-- Capacity of one transfer buffer of a shared connection. -/
  bufferSize : Nat
  /-- Number of transfer buffers: so many commands are being written at once. -/
  bufferCount : Nat
  /-- Number of events that wait for a reader before further ones are dropped. -/
  eventCapacity : Nat
  /-- Number of bytes that may be buffered for an unfinished frame. -/
  maxFrameSize : Nat
  deriving DecidableEq, Repr

namespace Settings

/-- The settings that nobody changed. -/
def default : Settings where
  host := "127.0.0.1"
  port := 6379
  tls := false
  password := none
  connectTimeout := ⟨10, 0⟩
  readTimeout := none
  bufferSize := 64 * 1024
  bufferCount := 16
  eventCapacity := 1024
  maxFrameSize := Decoder.defaultLimit

instance : Inhabited Settings := ⟨default⟩

/-- The unchanged settings for another server. -/
def server (host : String) (port : Nat) : Settings := { default with host, port }

/-- Host and port in one text. -/
def address (s : Settings) : String := s.host ++ ":" ++ toString s.port

/-- Refuses settings that no connection can be made with. -/
def check (s : Settings) : Except Refusal Unit :=
  if s.bufferCount = 0 ∨ s.bufferSize = 0 then .error .noTransferBuffers
  else if s.eventCapacity = 0 then .error .noEventCapacity
  else if s.tls then .error .tlsUnavailable
  else .ok ()

end Settings

end RespLink
