import RespLink.Connection.Basic

/-!
# Listening — a connection in push mode

Subscription commands are sent without waiting for an answer, since what comes back is pushed
like everything else. A caller then takes events one by one, or listens until nothing is
subscribed any more or somebody asks to stop.

Both take frames in a loop. A frame takes at least one byte, so the loops are bounded by the
number of bytes that are there: when these are used up, there is nothing left but to wait.
-/

namespace RespLink

namespace Connection

/-- A bound on the number of frames that can be taken without waiting. -/
def backlog (c : Connection) : Nat := c.inlet.decoder.buffer.length + c.stream.arrived.length

/-- Sends a command that changes what is subscribed, and enters push mode. -/
def changeSubscription (command : Command) : Act Unit := do
  ensureUsable
  let c ← get
  if c.pipeline.active || c.inTransaction then refuse (.subscriptionWhileBusy command.name)
  transmit command
  modify fun c => { c with subscription := c.subscription.enter }

/-- Subscribes to channels. -/
def subscribe (channels : List Bytes) : Act Unit :=
  changeSubscription (Catalog.subscribe channels).command

/-- Subscribes to patterns. -/
def psubscribe (patterns : List Bytes) : Act Unit :=
  changeSubscription (Catalog.psubscribe patterns).command

/-- Unsubscribes from channels, or from all when none is given. -/
def unsubscribe (channels : List Bytes) : Act Unit :=
  changeSubscription (Catalog.unsubscribe channels).command

/-- Unsubscribes from patterns, or from all when none is given. -/
def punsubscribe (patterns : List Bytes) : Act Unit :=
  changeSubscription (Catalog.punsubscribe patterns).command

/-- Registers a handler under a name. -/
def onMessage (c : Connection) (name : String) (h : Handler) : Connection :=
  let handlers := c.subscription.handlers.register name h
  { c with subscription := { c.subscription with handlers } }

/-- Removes the handler of a name. -/
def removeHandler (c : Connection) (name : String) : Connection :=
  let handlers := c.subscription.handlers.remove name
  { c with subscription := { c.subscription with handlers } }

/-- What a frame in push mode reports, if it reports anything. -/
def applyPush (r : Reply) : Act (Option Event) := do
  let c ← get
  let (outcome, subscription) := c.subscription.apply r
  set { c with subscription }
  match outcome with
  | .ok event => return event
  | .error e => raise e

/-- Takes frames until one reports an event, at most `fuel` of them. -/
def nextPushWithin : (fuel : Nat) → Act Event
  | 0 => throw .waiting
  | fuel + 1 => do
    ensureUsable
    if !(← get).subscription.active then refuse .notSubscribed
    match ← applyPush (← readReply) with
    | some event => return event
    | none => nextPushWithin fuel

/-- The next event. Handlers are not called. -/
def nextPush : Act Event := do
  nextPushWithin ((← get).backlog + 2)

/-- Calls the handlers of a message: whether one of them asks to stop. -/
def dispatch (m : Message) : Act Bool := do
  let hs := (← get).subscription.handlers.matching m
  modify fun c => { c with handled := c.handled ++ hs.map fun h => ⟨h, m⟩ }
  return hs.any Handler.stops

/-- Calls handlers for an event and reports it: whether a handler asks to stop. -/
def observe (e : Event) : Act Bool := do
  let stop ← match e with
    | .received m => dispatch m
    | _ => pure false
  notify e
  return stop

/-- Who asks a connection to stop listening, besides handlers. -/
inductive Stop where
  | never
  /-- Somebody did before it began. -/
  | already
  /-- Somebody does when nothing comes for a while. -/
  | whenIdle
  deriving DecidableEq, Repr, Inhabited

/-- Takes frames until nothing is subscribed any more or somebody asked to stop, at most `fuel`
    of them. Requests to stop are looked at between frames only. A limit on waiting does not end
    the loop: nothing came, but the stream is up. -/
def listenWithin (stop : Stop) : (fuel : Nat) → (asked : Bool) → Act Unit
  | 0, _ => throw .waiting
  | fuel + 1, asked => do
    if !(← get).subscription.active then return ()
    ensureUsable
    if asked then return ()
    match ← nextFrame with
    | .ok r =>
      match ← applyPush r with
      | some event => listenWithin stop fuel (← observe event)
      | none => listenWithin stop fuel false
    | .error (.timeout span) =>
      if (← get).connected then
        if stop = .whenIdle then return () else throw .waiting
      else fail (.timeout span)
    | .error e => fail e

/-- Listens until nothing is subscribed any more or somebody asks to stop. -/
def listen (stop : Stop) : Act Unit := do
  listenWithin stop ((← get).backlog + 2) (stop = .already)

end Connection

end RespLink
