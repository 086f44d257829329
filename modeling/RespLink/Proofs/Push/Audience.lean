import RespLink.Connection.Operation

/-!
# Audiences — what a server acknowledges

A server confirms a subscription change name by name, and with each name it says how many
subscriptions are left, channels and patterns together. Unsubscribing without a name is
unsubscribing from every name there is, and is confirmed once if there is none.

So the counts that a client will hear are settled as soon as it has asked for the changes, whatever
is published in between (`Audience.counts`), and asking for more only adds to their end. A
connection looks at nothing else in an acknowledgement: it is in push mode afterwards if the count
is not zero (`Subscription.active_apply`).
-/

namespace RespLink

/-- A change of what a connection is subscribed to. -/
structure Change where
  /-- Whether it takes names away. -/
  leaving : Bool
  /-- Whether its names are patterns. -/
  pattern : Bool
  names : List Bytes
  deriving DecidableEq, Repr

namespace Change

/-- The command that asks for a change. -/
def command (ch : Change) : Command :=
  match ch.leaving, ch.pattern with
  | false, false => (Catalog.subscribe ch.names).command
  | false, true => (Catalog.psubscribe ch.names).command
  | true, false => (Catalog.unsubscribe ch.names).command
  | true, true => (Catalog.punsubscribe ch.names).command

end Change

/-- The change that an operation asks for. -/
def Operation.change? : Operation → Option Change
  | .subscribe channels => some ⟨false, false, channels⟩
  | .psubscribe patterns => some ⟨false, true, patterns⟩
  | .unsubscribe channels => some ⟨true, false, channels⟩
  | .punsubscribe patterns => some ⟨true, true, patterns⟩
  | _ => none

/-- What a client is subscribed to, as the server keeps it. -/
structure Audience where
  channels : List Bytes
  patterns : List Bytes
  deriving DecidableEq, Repr

namespace Audience

def empty : Audience := ⟨[], []⟩

def size (a : Audience) : Nat := a.channels.length + a.patterns.length

/-- The names of one sort. -/
def names (a : Audience) (pattern : Bool) : List Bytes :=
  if pattern then a.patterns else a.channels

/-- One name joins or leaves; a name that is there does not join again. -/
def move (a : Audience) (leaving pattern : Bool) (name : Bytes) : Audience :=
  let names := if leaving then (a.names pattern).erase name else (a.names pattern).insert name
  if pattern then { a with patterns := names } else { a with channels := names }

/-- Names join or leave one after the other: the number of subscriptions after each, and what is
    subscribed then. -/
def moveAll (a : Audience) (leaving pattern : Bool) : List Bytes → List Nat × Audience
  | [] => ([], a)
  | name :: rest =>
    let (counts, last) := (a.move leaving pattern name).moveAll leaving pattern rest
    ((a.move leaving pattern name).size :: counts, last)

/-- What a change is acknowledged with, and what is subscribed then. -/
def change (a : Audience) (ch : Change) : List Nat × Audience :=
  if ch.leaving && ch.names.isEmpty then
    match a.names ch.pattern with
    | [] => ([a.size], a)
    | names => a.moveAll true ch.pattern names
  else a.moveAll ch.leaving ch.pattern ch.names

def counts (a : Audience) : List Change → List Nat
  | [] => []
  | ch :: rest => (a.change ch).1 ++ (a.change ch).2.counts rest

-- without a name every channel leaves, and where there is none that is said once
example : (Audience.empty.counts [⟨false, false, [[97], [98]]⟩, ⟨false, true, [[42]]⟩,
    ⟨true, false, []⟩, ⟨true, true, [[42], [42]]⟩, ⟨true, true, []⟩]) =
    [1, 2, 3, 2, 1, 0, 0, 0] := by decide

/-- What was acknowledged before does not depend on what is asked for afterwards. -/
theorem counts_prefix (a : Audience) (asked more : List Change) :
    a.counts asked <+: a.counts (asked ++ more) := by
  induction asked generalizing a with
  | nil => exact List.nil_prefix
  | cons ch asked ih =>
    rw [List.cons_append, counts, counts]
    exact List.prefix_append_right_inj _ |>.mpr (ih _)

theorem getLast?_moveAll (a : Audience) (leaving pattern : Bool) (names : List Bytes) :
    (a.moveAll leaving pattern names).1.getLast?.getD a.size =
      (a.moveAll leaving pattern names).2.size := by
  induction names generalizing a with
  | nil => rfl
  | cons name names ih =>
    rw [moveAll, List.getLast?_cons, Option.getD_some]
    exact ih _

/-- What a change is acknowledged with last is the number of subscriptions that it leaves. -/
theorem getLast?_change {a : Audience} {ch : Change} (h : (a.change ch).1 ≠ []) :
    (a.change ch).1.getLast? = some (a.change ch).2.size := by
  have hlast : (a.change ch).1.getLast?.getD a.size = (a.change ch).2.size := by
    unfold change
    split
    · split
      · rfl
      · exact getLast?_moveAll _ _ _ _
    · exact getLast?_moveAll _ _ _ _
  rw [List.getLast?_eq_some_getLast h, Option.getD_some] at hlast
  rw [List.getLast?_eq_some_getLast h, hlast]

end Audience

/-! ## What a connection hears of it -/

/-- The number of subscriptions that a frame acknowledges, if it is an acknowledgement. -/
def Push.count? : Push → Option Nat
  | .acknowledgement _ _ count => some count.toInt.toNat
  | .message _ | .pong => none

/-- The number of subscriptions that a reply acknowledges, if it is an acknowledgement. -/
def Reply.count? (r : Reply) : Option Nat :=
  match Push.ofReply r with
  | .ok push => push.count?
  | .error _ => none

/-- Whether a reply is a published message. -/
def Reply.isMessage (r : Reply) : Bool :=
  match Push.ofReply r with
  | .ok (.message _) => true
  | _ => false

theorem Reply.count?_of_isMessage {r : Reply} (h : r.isMessage) : r.count? = none := by
  unfold isMessage at h
  unfold count?
  split at h
  · rename_i m hm
    rw [hm]
    rfl
  · cases h

namespace Subscription

variable {s : Subscription} {r : Reply}

theorem apply_of_ok {push : Push} (h : Push.ofReply r = .ok push) :
    s.apply r = (.ok (s.take push).1, (s.take push).2) := by
  rw [apply, h]

/-- What is no pushed frame changes nothing. -/
theorem apply_of_error {e : Error} (h : Push.ofReply r = .error e) : s.apply r = (.error e, s) := by
  rw [apply, h]

theorem active_take (s : Subscription) (push : Push) :
    (s.take push).2.active = (push.count?.map fun k => decide (0 < k)).getD s.active := by
  cases push with
  | acknowledgement kind name count =>
    show decide (0 < max count.toInt 0) = decide (0 < count.toInt.toNat)
    rw [decide_eq_decide]
    omega
  | message m => rfl
  | pong => rfl

/-- After an acknowledgement a connection is in push mode if anything is subscribed. Other frames
    leave it as it is. -/
theorem active_apply (s : Subscription) (r : Reply) :
    (s.apply r).2.active = (r.count?.map fun k => decide (0 < k)).getD s.active := by
  unfold Reply.count?
  cases hpush : Push.ofReply r with
  | ok push =>
    rw [apply_of_ok hpush]
    exact active_take s push
  | error e =>
    rw [apply_of_error hpush]
    rfl

theorem eq_of_apply_error {e : Error} (h : (s.apply r).1 = .error e) : (s.apply r).2 = s := by
  cases hpush : Push.ofReply r with
  | ok push =>
    rw [apply_of_ok hpush] at h
    cases h
  | error e => rw [apply_of_error hpush]

/-- A frame that reports nothing changes nothing. -/
theorem eq_of_apply_silent (h : (s.apply r).1 = .ok Option.none) : (s.apply r).2 = s := by
  cases hpush : Push.ofReply r with
  | ok push =>
    rw [apply_of_ok hpush] at h ⊢
    cases push with
    | pong => rfl
    | acknowledgement kind name count => cases h
    | message m => cases h
  | error e =>
    rw [apply_of_error hpush] at h
    cases h

end Subscription

end RespLink
