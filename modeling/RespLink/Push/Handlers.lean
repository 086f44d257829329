import RespLink.Push.Basic
import RespLink.Shape.Bindings

/-!
# Handlers — who is called for a message

Handlers are registered under names, and channels and patterns share one table. A message is
looked up by its channel and then, if it came through a pattern, by the pattern; whatever is
found is called, in that order.

What a handler does is its owner's business. All that a connection needs to know of it is
whether it asks to stop listening.
-/

namespace RespLink

/-- A handler, by the tag its owner knows it by. -/
structure Handler where
  tag : String
  /-- Whether a call asks the connection to stop listening. -/
  stops : Bool
  deriving DecidableEq, Repr, Inhabited

/-- One handler a name. -/
abbrev Handlers := Bindings String Handler

namespace Handlers

/-- No handlers. -/
def none : Handlers := Bindings.empty

/-- Registers a handler under a name, in place of the one that was there. -/
def register (hs : Handlers) (name : String) (h : Handler) : Handlers := hs.insert name h

/-- Removes the handler of a name. -/
def remove (hs : Handlers) (name : String) : Handlers := hs.erase name

/-- Whether a name has a handler. -/
def has (hs : Handlers) (name : String) : Bool := (hs.get? name).isSome

/-- The handlers to call for a message, in order. -/
def matching (hs : Handlers) (m : Message) : List Handler :=
  (hs.get? m.channel).toList ++ (m.pattern.bind hs.get?).toList

end Handlers

/-- A call of a handler. -/
structure Handled where
  handler : Handler
  message : Message
  deriving DecidableEq, Repr, Inhabited

end RespLink
