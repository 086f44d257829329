import RespLink.Proofs.Connection.Hearing
import RespLink.Subscriber

/-!
# The loop — one round of a subscriber

The loop of a subscriber takes one frame a round. What it does with one is settled by what the frame
is: a pushed frame is reported, an error reply is passed over, and any other frame is the end
(`Subscriber.receive_of_ok` and the lemmas after it). Where nothing but answers comes, a round
takes the next of them, or waits for it, or the loop is over for one of three reasons that are none
of its own: the stream has ended, it has ended within a frame, or a frame is longer than the limit
(`Subscriber.Round`).

Everything that is proved of the loop is an induction over these rounds.
-/

namespace RespLink

namespace Subscriber

variable {s : Subscriber} {r : Reply}

/-! ## The hand-over -/

/-- A connection is handed over if it is not tainted and nothing on it has to be finished first. -/
theorem ofConnection_ok {c : Connection} (h : ofConnection c = .ok s) :
    c.taint = none ∧ s = {
      stream := c.stream
      inlet := c.inlet
      outgoing := c.outgoing
      subscription := c.subscription
      mailbox := Mailbox.empty c.settings.eventCapacity
      handled := c.handled
      count := c.subscription.count
      cancelled := false
      ended := none } := by
  unfold ofConnection at h
  split at h
  · cases h
  · rename_i hclean
    split at h
    · cases h
    · cases h
      exact ⟨hclean, rfl⟩

/-! ## A frame -/

theorem receive_of_ok {push : Push} (h : Push.ofReply r = .ok push) :
    s.receive r = { s with
      subscription := (s.subscription.take push).2
      count := if push.event?.isSome then (s.subscription.take push).2.count else s.count
      mailbox := push.event?.toList.foldl Mailbox.deliver s.mailbox
      handled := s.handled ++ s.subscription.handlers.calls r } := by
  unfold receive
  rw [Subscription.apply_of_ok h, Handlers.calls, h]
  cases push with
  | acknowledgement kind name count =>
    rw [List.append_nil]
    rfl
  | message m => rfl
  | pong =>
    rw [List.append_nil]
    rfl

/-- A rejected command concerns whoever sent it. -/
theorem receive_of_server {text : String} (h : Push.ofReply r = .error (.server text)) :
    s.receive r = s := by
  rw [receive, Subscription.apply_of_error h]

/-- A frame that answers no subscriber ends the loop. -/
theorem receive_of_fault {e : Error} (h : Push.ofReply r = .error e)
    (hfault : ∀ text, e ≠ .server text) : s.receive r = { s with ended := some (.error e) } := by
  rw [receive, Subscription.apply_of_error h]
  cases e with
  | server text => exact absurd rfl (hfault text)
  | _ => rfl

/-- What is no pushed frame makes no other difference than that the loop may be over. -/
theorem receive_of_error {e : Error} (h : Push.ofReply r = .error e) :
    s.receive r = { s with ended := match e with
      | .server _ => s.ended
      | e => some (.error e) } := by
  rw [receive, Subscription.apply_of_error h]
  cases e <;> rfl

/-! ## A round -/

theorem settleWithin_of_ended (h : s.ended.isSome) (n : Nat) : settleWithin n s = s := by
  cases n with
  | zero => rfl
  | succ n => rw [settleWithin, if_pos h]

/-- What a round comes to where answers are to come, `later` being their bytes that have not
    arrived. `further` is what comes of the rounds after it. -/
inductive Round (limit : Nat) (later : Bytes) (answers : List Answer) (s : Subscriber)
    (further : Subscriber → Subscriber) : Subscriber → Prop
  | takes {a : Answer} {rest : List Answer} {inlet : Inlet} {stream : Stream}
    (first : answers = a :: rest) (fit : inlet.Fit limit stream)
    (stays : stream.ended = s.stream.ended) (left : inlet.unread stream ++ later = spell rest) :
    Round limit later answers s further (further ({ s with inlet, stream }.receive a.reply))
  | waits {inlet : Inlet} {stream : Stream} (fit : inlet.Fit limit stream)
    (stays : stream.ended = s.stream.ended) (same : inlet.unread stream = s.inlet.unread s.stream)
    (short : Short (s.inlet.unread s.stream) answers) :
    Round limit later answers s further { s with inlet, stream }
  | closed {inlet : Inlet} {stream : Stream} (final : s.stream.ended = true)
    (stays : stream.ended = s.stream.ended) :
    Round limit later answers s further ({ s with inlet, stream }.finish .connectionClosed)
  | cutOff {inlet : Inlet} {stream : Stream} (final : s.stream.ended = true)
    (stays : stream.ended = s.stream.ended) :
    Round limit later answers s further ({ s with inlet, stream }.finish (.io .cutOff))
  | tooLarge {a : Answer} {inlet : Inlet} {stream : Stream} (first : answers.head? = some a)
    (long : limit < a.bytes.length) :
    Round limit later answers s further
      ({ s with inlet, stream }.finish (.protocol (.tooLarge limit)))

variable {limit : Nat} {later : Bytes} {answers : List Answer}

theorem settleWithin_round (hrunning : s.ended = none) (hwanted : s.cancelled = false)
    (hfit : s.inlet.Fit limit s.stream) (hu : s.inlet.unread s.stream ++ later = spell answers)
    (fuel : Nat) : Round limit later answers s (settleWithin fuel) (settleWithin (fuel + 1) s) := by
  have hcomes := hfit.next_comes hu
  rw [settleWithin, if_neg (by simp [hrunning]), if_neg (by simp [hwanted])]
  generalize s.inlet.next s.stream = found at hcomes
  cases hcomes with
  | frame first fit stays left => exact .takes first fit stays left
  | pending goesOn fit stays same short => exact .waits fit stays same short
  | finished closed stays same lost => exact .closed closed stays
  | cutOff closed stays lost => exact .cutOff closed stays
  | tooLarge first long same => exact .tooLarge (List.head?_eq_some_iff.mpr ⟨_, first⟩) long.length

end Subscriber

end RespLink
