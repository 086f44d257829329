import RespLink.Push.Basic

/-!
# Mailboxes — events that wait for a reader

A connection reports events and does not wait for anyone to read them. They are put into a
mailbox of fixed capacity; when it is full, further ones are dropped, so that a reader who does
not read cannot hold up the connection. A reader who left is not written to at all.
-/

namespace RespLink

/-- Events that wait for a reader, the oldest first. -/
structure Mailbox where
  capacity : Nat
  waiting : List Event
  /-- Whether the reader has left. -/
  abandoned : Bool
  deriving DecidableEq, Repr, Inhabited

namespace Mailbox

/-- A mailbox with nothing in it. -/
def empty (capacity : Nat) : Mailbox := ⟨capacity, [], false⟩

/-- Puts an event into the mailbox if there is room and anyone to read it. -/
def deliver (m : Mailbox) (e : Event) : Mailbox :=
  if m.abandoned ∨ m.capacity ≤ m.waiting.length then m
  else { m with waiting := m.waiting ++ [e] }

/-- The oldest event, and the mailbox without it. -/
def take? (m : Mailbox) : Option (Event × Mailbox) :=
  match m.waiting with
  | [] => none
  | e :: rest => some (e, { m with waiting := rest })

/-- All events, and the mailbox without them. -/
def drain (m : Mailbox) : List Event × Mailbox := (m.waiting, { m with waiting := [] })

/-- The reader leaves; what it did not read is lost. -/
def abandon (m : Mailbox) : Mailbox := { m with waiting := [], abandoned := true }

end Mailbox

end RespLink
