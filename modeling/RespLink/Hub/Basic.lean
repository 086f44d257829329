import RespLink.Hub.Pool
import RespLink.Request.Catalog
import RespLink.Request.Transfer
import RespLink.Stream.Inlet

/-!
# Hubs — one connection, many callers

Many callers can share one stream, because the server answers in the order in which it was asked.
A *hub* keeps that order: a command is entered into the queue of unwritten ones, moves to the
queue of unanswered ones when it is written, and the next frame belongs to the head of the
latter. Nothing else ties a reply to a command.

A caller does not write or read by itself. It enters its command and starts a *drive*, which
writes one command, the oldest unwritten one, and then reads one frame, for the oldest
unanswered one; neither need be its own. Since a drive belongs to nobody, a caller who goes away
leaves no command behind whose reply would be taken for another's.

The stream is opened by whoever needs it first, and the others wait for that. After a failure
the hub is tainted: the first reason stays, whatever is queued fails with it, and the pool of
transfer buffers is closed, so that nobody enters anything more.

This module says what a hub, a caller and a drive are; `Hub.Step` says what they do.
-/

namespace RespLink

/-- What a hub says about its stream. -/
inductive LinkState where
  | disconnected
  | connecting
  | connected
  deriving DecidableEq, Repr, Inhabited

namespace LinkState

/-- The state that a byte stands for; what is no state is no connection. -/
def ofByte (b : UInt8) : LinkState :=
  if b = 1 then .connecting else if b = 2 then .connected else .disconnected

/-- The name of a state. -/
def name : LinkState → String
  | .disconnected => "Disconnected"
  | .connecting => "Connecting"
  | .connected => "Connected"

end LinkState

/-- Who is responsible for the stream. -/
inductive Link where
  /-- Nobody has opened it. -/
  | vacant
  /-- A caller is opening it. -/
  | opening (caller : Nat)
  | up
  deriving DecidableEq, Repr, Inhabited

/-- A command that is queued, and the caller whose it is. -/
structure Ticket where
  caller : Nat
  command : Command
  deriving DecidableEq, Repr, Inhabited

/-- What a caller wants: an answer, or merely that the stream be opened. -/
inductive Errand where
  | link
  | call (q : Request)
  deriving DecidableEq, Repr, Inhabited

/-- Where a caller is. -/
inductive CallerPhase where
  /-- Before anything. -/
  | entering
  /-- Wants the stream to be open. -/
  | linking
  /-- Waits until somebody else has opened the stream. -/
  | awaitingLink
  | dialing
  /-- Has sent the password and waits for the answer. -/
  | authenticating
  /-- Wants a permit. -/
  | claiming
  | inLine
  | permitted
  | holding (buffer : Bytes)
  /-- Has entered its command and not started the drive yet. -/
  | entered (buffer : Bytes)
  /-- Waits for the reply. -/
  | waiting
  /-- Has the reply, or nothing but an open stream, or has failed. -/
  | finished (outcome : Except Error (Option Reply))
  /-- Has gone away. -/
  | gone

/-- A caller. -/
structure Caller where
  errand : Errand
  phase : CallerPhase

/-- What a drive does after it has given back its buffer. -/
inductive Afterwards where
  | stop
  | read
  | fail (reason : String)
  deriving DecidableEq, Repr, Inhabited

/-- The steps of a failure: the taint, the pool, the queues. -/
inductive FailureStage where
  | taint
  | closePool
  | drain
  | conclude
  deriving DecidableEq, Repr, Inhabited

/-- Where a drive is. -/
inductive DrivePhase where
  | starting (buffer : Bytes)
  | wantsWriter (buffer : Bytes)
  /-- Has the writer and takes the oldest unwritten command. -/
  | choosing (buffer : Bytes)
  /-- Has the writer and these slices to send. -/
  | writing (slices : List Bytes)
  /-- Puts its buffer back. -/
  | shelving (next : Afterwards)
  /-- Gives its permit back. -/
  | returning (next : Afterwards)
  | wantsReader
  /-- Has the reader and takes the oldest unanswered command. -/
  | matching
  /-- Has the reader and waits for the reply to a command. -/
  | reading (ticket : Ticket)
  /-- Fails the hub for a reason; if a read failed, the command that it was for gets the error
      itself in the end. -/
  | failing (stage : FailureStage) (reason : String) (owed : Option (Ticket × Error))
  | done
  deriving DecidableEq, Repr, Inhabited

/-- Where somebody is who closes the hub. -/
inductive CloserPhase where
  | failing (stage : FailureStage)
  | done
  deriving DecidableEq, Repr, Inhabited

/-- One connection and everybody who uses it. -/
structure Hub where
  settings : Settings
  /-- What dialling leads to. -/
  network : Network
  state : LinkState
  taint : Option String
  link : Link
  /-- How many times somebody began to open the stream. -/
  attempts : Nat
  /-- The stream, once it was dialled. -/
  stream : Option Stream
  inlet : Inlet
  unwritten : List Ticket
  unanswered : List Ticket
  pool : Pool
  /-- The drive that may write. -/
  writer : Option Nat
  /-- The drive that may read. -/
  reader : Option Nat
  callers : List Caller
  drives : List DrivePhase
  closers : List CloserPhase
  /-- What became of commands, in the order in which it did. -/
  completions : List (Nat × Except Error Reply)

namespace Hub

/-- A hub that nobody has used. -/
def start (settings : Settings) (network : Network) : Hub where
  settings
  network
  state := .disconnected
  taint := none
  link := .vacant
  attempts := 0
  stream := none
  inlet := Inlet.start settings.maxFrameSize
  unwritten := []
  unanswered := []
  pool := Pool.start settings.bufferSize settings.bufferCount
  writer := none
  reader := none
  callers := []
  drives := []
  closers := []
  completions := []

/-- A hub with settings that pass their check. -/
def create (settings : Settings) (network : Network) : Except Error Hub :=
  match settings.check with
  | .ok () => .ok (start settings network)
  | .error refusal => .error (.usage refusal)

/-- The number of commands that are queued. The one that a drive waits for is not. -/
def pending (h : Hub) : Nat := h.unwritten.length + h.unanswered.length

/-- The number of buffers that could be lent at once. -/
def available (h : Hub) : Nat := h.pool.permits

/-- What became of a caller's command. -/
def completion? (h : Hub) (caller : Nat) : Option (Except Error Reply) :=
  (h.completions.find? fun c => c.1 == caller).map Prod.snd

/-- Why a command is not for a hub: it changes what later replies mean, or is too large. -/
def refusal? (h : Hub) (c : Command) : Option Refusal :=
  if c.isMulti || c.isExec || c.isDiscard then some (.transactionOnShared c.name)
  else if c.isSubscriptionChange then some (.subscriptionOnShared c.name)
  else if h.pool.capacity < c.largestPart then
    some (.oversizedArgument c.largestPart h.pool.capacity)
  else none

end Hub

end RespLink
