import RespLink.Push.Handlers

/-!
# Subscriptions — what a connection knows of its own

A connection is in *push mode* from the first subscription command that it writes until an
acknowledgement says that nothing is subscribed any more. The server keeps the subscriptions;
the connection keeps only their number, as last acknowledged.
-/

namespace RespLink

/-- The subscriptions of a connection. -/
structure Subscription where
  /-- Whether replies are pushed. -/
  active : Bool
  /-- The number of subscriptions, as last acknowledged. -/
  count : Int
  handlers : Handlers
  deriving DecidableEq, Repr, Inhabited

namespace Subscription

/-- Nothing subscribed. -/
def none : Subscription := ⟨false, 0, Handlers.none⟩

/-- A subscription command was written: from now on replies are pushed. -/
def enter (s : Subscription) : Subscription := { s with active := true }

/-- The number of subscriptions is now `count`, or none if that is negative. -/
def acknowledge (s : Subscription) (count : Int64) : Subscription :=
  let count := max count.toInt 0
  { s with count, active := decide (0 < count) }

/-- What a pushed frame does to the subscriptions, and the event to report. A pong is neither. -/
def take (s : Subscription) : Push → Option Event × Subscription
  | .acknowledgement kind name count =>
    let s := s.acknowledge count
    let change : SubscriptionChange :=
      if kind.isPattern then ⟨kind, .none, name, s.count⟩ else ⟨kind, name, .none, s.count⟩
    (some (.changed change), s)
  | .message m => (some (.received m), s)
  | .pong => (.none, s)

/-- What a frame received in push mode does to the subscriptions, and the event to report. One
    that is no pushed frame is an error and changes nothing. -/
def apply (s : Subscription) (r : Reply) : Except Error (Option Event) × Subscription :=
  match Push.ofReply r with
  | .ok push => let (event, s) := s.take push; (.ok event, s)
  | .error e => (.error e, s)

end Subscription

end RespLink
