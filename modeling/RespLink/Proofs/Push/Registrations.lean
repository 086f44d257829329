import Mathlib.Data.List.Dedup
import RespLink.Push.Handlers

/-!
# Registrations — which handlers a message concerns

Names get handlers and lose them again, and whatever was said of a name last stands. A message has
one name or two, its channel and the pattern it came through, and it concerns the handlers that
stand under these names: each of them, once.

A table of handlers that has followed a history of registrations finds for every name what stands
under it (`Handlers.Follows`). It is asked for the channel and then for the pattern, and it does not
ask whether these are the same name. So it finds what the message concerns if they differ, and finds
it twice over if they do not (`Handlers.matching_of_follows`).
-/

namespace RespLink

/-- A name gets a handler, or has none from now on. -/
structure Registration where
  name : String
  handler : Option Handler
  deriving DecidableEq, Repr

/-- The handler that stands under a name: what was said of it last. -/
def standing? (history : List Registration) (name : String) : Option Handler :=
  (history.reverse.find? fun r => r.name = name).bind Registration.handler

/-- The names that a message goes by. -/
def Message.names (m : Message) : List String := m.channel :: m.pattern.toList

/-- The handlers that a message concerns, after a history of registrations. -/
def concerned (history : List Registration) (m : Message) : List Handler :=
  m.names.dedup.filterMap (standing? history)

theorem standing?_concat (history : List Registration) (r : Registration) (name : String) :
    standing? (history ++ [r]) name =
      if r.name = name then r.handler else standing? history name := by
  unfold standing?
  rw [List.reverse_append, List.reverse_singleton, List.singleton_append, List.find?_cons]
  by_cases h : r.name = name
  · simp [h]
  · simp [h]

namespace Handlers

variable {hs : Handlers} {history : List Registration}

/-- A table of handlers has followed a history: every name has the handler that stands under it. -/
def Follows (hs : Handlers) (history : List Registration) : Prop :=
  ∀ name, hs.get? name = standing? history name

/-- The table after a registration. -/
def enrol (hs : Handlers) (r : Registration) : Handlers :=
  match r.handler with
  | some h => hs.register r.name h
  | .none => hs.remove r.name

theorem follows_none : none.Follows [] := fun _ => rfl

theorem get?_enrol (hs : Handlers) (r : Registration) (name : String) :
    (hs.enrol r).get? name = if r.name = name then r.handler else hs.get? name := by
  unfold enrol
  cases hr : r.handler with
  | none => exact Bindings.get?_erase hs r.name name
  | some h => exact Bindings.get?_insert hs r.name name h

theorem Follows.enrol (h : hs.Follows history) (r : Registration) :
    (hs.enrol r).Follows (history ++ [r]) := by
  intro name
  rw [get?_enrol, standing?_concat, h name]

theorem Follows.enrolAll (h : hs.Follows history) (more : List Registration) :
    (more.foldl Handlers.enrol hs).Follows (history ++ more) := by
  induction more generalizing hs history with
  | nil => rwa [List.append_nil]
  | cons r more ih =>
    have hrest := ih (h.enrol r)
    rw [List.append_assoc] at hrest
    exact hrest

/-- What is found for a message is what it concerns, once more if its pattern is spelled like its
    channel. -/
theorem matching_of_follows (h : hs.Follows history) (m : Message) :
    hs.matching m = if m.pattern = some m.channel then concerned history m ++ concerned history m
      else concerned history m := by
  have hchannel := h m.channel
  unfold matching concerned Message.names
  cases hp : m.pattern with
  | none =>
    cases hstands : standing? history m.channel <;> simp [hchannel, hstands]
  | some p =>
    have hpattern := h p
    by_cases heq : p = m.channel
    · subst heq
      cases hstands : standing? history m.channel <;> simp [hpattern, hstands]
    · have hne : ¬ m.channel = p := fun hc => heq hc.symm
      cases hstands : standing? history m.channel <;> cases hstands' : standing? history p <;>
        simp [hchannel, hpattern, hstands, hstands', heq, hne]

/-- Nothing is found that the message does not concern. -/
theorem mem_concerned_of_matching (h : hs.Follows history) {m : Message} {handler : Handler}
    (hmem : handler ∈ hs.matching m) : handler ∈ concerned history m := by
  rw [matching_of_follows h] at hmem
  split at hmem
  · exact (List.mem_append.mp hmem).elim id id
  · exact hmem

end Handlers

end RespLink
