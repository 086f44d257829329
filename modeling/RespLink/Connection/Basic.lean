import RespLink.Push.Mailbox
import RespLink.Push.Subscription
import RespLink.Request.Catalog
import RespLink.Stream.Inlet

/-!
# Connections — one caller, one stream

A connection writes requests and reads their replies on behalf of one caller, who waits for each
answer. Nothing but that waiting keeps requests and replies in step, so the connection keeps
books on everything that could put them out of step: collected requests whose replies are owed,
a transaction in which commands are only queued, and push mode, in which nothing is a reply.

What a connection does is an `Act`: it changes the connection and ends with a value, with an
error, or not at all, because the peer would have to send more first (`Halt.waiting`). In the
last two cases too the connection stays as it was left, which is what the next act starts from.

After a fatal error nobody knows where the next frame belongs. The error's wording is kept as
the *taint*, and every act that starts from a tainted connection fails with it at once.
-/

namespace RespLink

/-- Requests that were written and whose replies nobody has read. -/
structure Pipeline where
  active : Bool
  /-- The number of replies that are owed. -/
  outstanding : Nat
  deriving DecidableEq, Repr, Inhabited

/-- No requests are collected. -/
def Pipeline.none : Pipeline := ⟨false, 0⟩

/-- A connection to a server. -/
structure Connection where
  settings : Settings
  stream : Stream
  inlet : Inlet
  /-- Requests that were encoded and not sent yet. -/
  outgoing : Bytes
  /-- Whether the stream is up, as far as is known. -/
  connected : Bool
  /-- The wording of the failure after which the stream is of no use. -/
  taint : Option String
  /-- Whether the server queues commands instead of running them. -/
  inTransaction : Bool
  pipeline : Pipeline
  subscription : Subscription
  /-- Where events are reported, if anybody wants them. -/
  mailbox : Option Mailbox
  /-- The calls of handlers so far, the latest last. -/
  handled : List Handled
  deriving DecidableEq, Repr, Inhabited

/-- How an act ends without a value. -/
inductive Halt where
  | failed (e : Error)
  /-- The peer has to send more, or to end the stream, before the act can go on. -/
  | waiting
  deriving DecidableEq, Repr, Inhabited

/-- Something that a connection does. -/
abbrev Act (α : Type) := EStateM Halt Connection α

namespace Connection

/-- A connection over a stream that is open already. Nothing is checked and nothing is sent. -/
def ofStream (stream : Stream) (settings : Settings) : Connection where
  settings
  stream
  inlet := Inlet.start settings.maxFrameSize
  outgoing := []
  connected := true
  taint := none
  inTransaction := false
  pipeline := Pipeline.none
  subscription := Subscription.none
  mailbox := none
  handled := []

/-- Whether the connection can be used. -/
def isConnected (c : Connection) : Bool := c.connected && c.taint.isNone

/-! ## Ends of acts -/

/-- Ends with an error that leaves the connection as it is. -/
def raise {α : Type} (e : Error) : Act α := throw (.failed e)

/-- Ends with a refusal. -/
def refuse {α : Type} (r : Refusal) : Act α := raise (.usage r)

/-- The connection after an error: tainted if the error is fatal, and down if it says that the
    stream is. -/
def tainted (c : Connection) (e : Error) : Connection :=
  if e.isFatal then
    let down := match e with
      | .io _ | .connectionClosed => true
      | _ => false
    { c with taint := some e.message, connected := c.connected && !down }
  else c

/-- Ends with an error, and taints the connection if the error is fatal. -/
def fail {α : Type} (e : Error) : Act α := do
  modify fun c => c.tainted e
  raise e

/-- Does something and goes on if it fails. What has to wait is waited for. -/
def attempt {α : Type} (act : Act α) : Act (Except Error α) := fun c =>
  match act.run c with
  | .ok a c => .ok (.ok a) c
  | .error (.failed e) c => .ok (.error e) c
  | .error .waiting c => .error .waiting c

/-- Ends at once on a tainted connection. -/
def ensureUsable : Act Unit := do
  match (← get).taint with
  | some reason => raise (.tainted reason)
  | none => return ()

/-! ## Writing and reading -/

/-- So many bytes are kept back before they are sent without being asked for. -/
def backlogLimit : Nat := 8 * 1024

/-- Sends what was kept back. -/
def flush : Act Unit := do
  let c ← get
  if c.outgoing.isEmpty then return ()
  else
    match c.stream.send c.outgoing with
    | .ok stream => set { c with stream, outgoing := [] }
    | .error fault => fail (.io fault)

/-- Encodes a command, and keeps it back unless there is much of that already. -/
def feed (command : Command) : Act Unit := do
  if backlogLimit ≤ (← get).outgoing.length then flush
  modify fun c => { c with outgoing := c.outgoing ++ command.encode }

/-- Sends a command, behind what was kept back. -/
def transmit (command : Command) : Act Unit := do
  feed command
  flush

/-- The next frame, or the error that comes instead; errors are not recorded here. Where nothing
    comes, that is an error if there is a limit on waiting. -/
def nextFrame : Act (Except Error Reply) := do
  let c ← get
  let (intake, inlet, stream) := c.inlet.next c.stream
  set { c with inlet, stream }
  match intake with
  | .frame r => return .ok r
  | .failure e => return .error e
  | .finished => return .error .connectionClosed
  | .pending =>
    match c.settings.readTimeout with
    | some span => return .error (.timeout span)
    | none => throw .waiting

/-- The next frame; an error is recorded. An error *reply* is a frame like any other. -/
def readReply : Act Reply := do
  match ← nextFrame with
  | .ok r => return r
  | .error e => fail e

/-- Reads a reply as a shape. A reply that does not fit is lost, but the next one is not. -/
def project (s : Shape) (r : Reply) : Act s.Value :=
  match s.project r with
  | .ok value => return value
  | .error e => raise e

/-! ## Events -/

/-- Reports an event to whoever wants to know. -/
def notify (e : Event) : Act Unit :=
  modify fun c => { c with mailbox := c.mailbox.map fun m => m.deliver e }

/-- The connection with a new, empty mailbox; the one before gets nothing any more. -/
def watch (c : Connection) : Connection :=
  { c with mailbox := some (Mailbox.empty c.settings.eventCapacity) }

/-! ## The end -/

/-- Ends the client's direction of the stream, after sending what was kept back. The connection
    is of no use afterwards. -/
def close : Act Unit := do
  let c ← get
  if c.connected then
    set { c with connected := false, taint := some (c.taint.getD "closed by client") }
    let c ← get
    match if c.outgoing.isEmpty then .ok c.stream else c.stream.send c.outgoing with
    | .ok stream => set { c with stream := stream.shutDown, outgoing := [] }
    | .error fault => raise (.io fault)
  else return ()

end Connection

end RespLink
