import RespLink.Connection.Call
import RespLink.Connection.Listening

/-!
# Subscribers — a connection that only listens

A subscriber hands a connection over to a receive loop, which takes whatever comes for as long
as the stream lasts; meanwhile anybody may send subscription commands and pings. The loop outlives
the last subscription: it waits for the next one. It is over when the stream fails, when a frame
comes that is not pushed, or when the subscriber is shut down.

The server may refuse a subscription command with an error reply; that concerns nobody but the
one who sent it, so the loop passes over it.

The loop runs whenever there is something to take. `Subscriber.settle` is that: everything that
has arrived has been dealt with, and the loop waits for more or is over.
-/

namespace RespLink

/-- A connection that only listens. -/
structure Subscriber where
  stream : Stream
  inlet : Inlet
  outgoing : Bytes
  /-- The loop's own view of the subscriptions. -/
  subscription : Subscription
  mailbox : Mailbox
  handled : List Handled
  /-- The number of subscriptions that the loop has published. -/
  count : Int
  /-- Whether the loop was asked to stop. -/
  cancelled : Bool
  /-- How the loop ended, if it did. -/
  ended : Option (Except Error Unit)

namespace Subscriber

/-- Hands a connection over. Its subscriptions, its handlers and what is buffered carry over; its
    mailbox does not. -/
def ofConnection (c : Connection) : Except Error Subscriber :=
  match c.taint with
  | some reason => .error (.tainted reason)
  | none =>
    if c.pipeline.active || c.inTransaction then .error (.usage .handOverWhileBusy)
    else .ok {
      stream := c.stream
      inlet := c.inlet
      outgoing := c.outgoing
      subscription := c.subscription
      mailbox := Mailbox.empty c.settings.eventCapacity
      handled := c.handled
      count := c.subscription.count
      cancelled := false
      ended := none }

/-- Whether the loop is running. -/
def isRunning (s : Subscriber) : Bool := s.ended.isNone

/-- Whether anything is subscribed, as far as the loop has published it. -/
def isSubscribed (s : Subscriber) : Bool := 0 < s.count

/-! ## The loop -/

/-- What the loop does with an event: the count is published, handlers are called, and the event
    is put into the mailbox. -/
def observe (s : Subscriber) (e : Event) : Subscriber :=
  let s := { s with count := s.subscription.count, mailbox := s.mailbox.deliver e }
  match e with
  | .received m =>
    let calls := (s.subscription.handlers.matching m).map fun h => ⟨h, m⟩
    { s with handled := s.handled ++ calls }
  | _ => s

/-- What the loop does with a frame. -/
def receive (s : Subscriber) (r : Reply) : Subscriber :=
  let (outcome, subscription) := s.subscription.apply r
  let s := { s with subscription }
  match outcome with
  | .ok (some e) => s.observe e
  | .ok none => s
  | .error (.server _) => s
  | .error e => { s with ended := some (.error e) }

/-- The end of the loop by an error, which nobody wants to hear of once the loop was asked to
    stop. -/
def finish (s : Subscriber) (e : Error) : Subscriber :=
  { s with ended := some (if s.cancelled then .ok () else .error e) }

/-- Takes frames until there is none, at most `fuel` of them. -/
def settleWithin : (fuel : Nat) → Subscriber → Subscriber
  | 0, s => s
  | fuel + 1, s =>
    if s.ended.isSome then s
    else if s.cancelled then { s with ended := some (.ok ()) }
    else
      let (intake, inlet, stream) := s.inlet.next s.stream
      let s := { s with inlet, stream }
      match intake with
      | .frame r => settleWithin fuel (s.receive r)
      | .failure e => s.finish e
      | .finished => s.finish .connectionClosed
      | .pending => s

/-- Takes everything that has arrived. A frame takes at least one byte, so the number of bytes is
    bound enough. -/
def settle (s : Subscriber) : Subscriber :=
  settleWithin (s.inlet.decoder.buffer.length + s.stream.arrived.length + 2) s

/-! ## What others do meanwhile -/

/-- Sends a command to the server. Only commands that a listening connection takes are sent, and
    none after the loop is over. -/
def transmit (s : Subscriber) (c : Command) : Except Error Subscriber :=
  if !c.isPushCommand then .error (.usage (.notForSubscriber c.name))
  else if s.cancelled || !s.isRunning then .error (.tainted "subscriber is shut down")
  else
    match s.stream.send (s.outgoing ++ c.encode) with
    | .ok stream => .ok { s with stream, outgoing := [] }
    | .error fault => .error (.io fault)

/-- Subscribes to channels. -/
def subscribe (s : Subscriber) (channels : List Bytes) : Except Error Subscriber :=
  s.transmit (Catalog.subscribe channels).command

/-- Subscribes to patterns. -/
def psubscribe (s : Subscriber) (patterns : List Bytes) : Except Error Subscriber :=
  s.transmit (Catalog.psubscribe patterns).command

/-- Unsubscribes from channels, or from all when none is given. -/
def unsubscribe (s : Subscriber) (channels : List Bytes) : Except Error Subscriber :=
  s.transmit (Catalog.unsubscribe channels).command

/-- Unsubscribes from patterns, or from all when none is given. -/
def punsubscribe (s : Subscriber) (patterns : List Bytes) : Except Error Subscriber :=
  s.transmit (Catalog.punsubscribe patterns).command

/-- Sends something to be answered, so that an idle stream does not look dead. -/
def ping (s : Subscriber) : Except Error Subscriber := s.transmit Catalog.ping.command

/-- Registers a handler under a name. -/
def onMessage (s : Subscriber) (name : String) (h : Handler) : Subscriber :=
  let handlers := s.subscription.handlers.register name h
  { s with subscription := { s.subscription with handlers } }

/-- Removes the handler of a name. -/
def removeHandler (s : Subscriber) (name : String) : Subscriber :=
  let handlers := s.subscription.handlers.remove name
  { s with subscription := { s.subscription with handlers } }

/-- Stops the loop and ends the client's direction of the stream: how the loop ended, and the
    subscriber as it is left. That sending fails on the way out is of no interest. -/
def shutDown (s : Subscriber) : Except Error Unit × Subscriber :=
  let s := { s with cancelled := true }
  let stream := match s.stream.send s.outgoing with
    | .ok stream => stream.shutDown
    | .error _ => s.stream
  let s := { s with stream, outgoing := [] }
  let outcome := s.ended.getD (.ok ())
  (outcome, { s with ended := some outcome })

end Subscriber

end RespLink
