import RespLink.Proofs.Connection.Requests
import RespLink.Proofs.Push.Registrations
import RespLink.Proofs.Subscriber.Relay

/-!
# Calling — handlers are called for messages, and registered when somebody says so

Of all that a connection can be asked, two operations concern its handlers, and the table changes in
no other way. Handlers are called in one place only, where a message is reported. So whatever else
is done, the table stays what it was and the calls grow by those for some events
(`Connection.Tends`). An act keeps that wherever it starts from, hence the lemmas here are closed
under sequence and look at no state.

A subscriber is simpler: its loop applies frames and reports them, and nothing else touches the
table. Both come together in `Party.carry_tends`, which says of every turn which registrations it
makes and that it calls nobody but for events.
-/

namespace RespLink

/-! ## Who registers handlers -/

def Operation.registrations : Operation → List Registration
  | .onMessage name h => [⟨name, some h⟩]
  | .removeHandler name => [⟨name, none⟩]
  | _ => []

def Chore.registrations : Chore → List Registration
  | .operate o _ => o.registrations
  | _ => []

def Bidding.registrations : Bidding → List Registration
  | .onMessage name h => [⟨name, some h⟩]
  | .removeHandler name => [⟨name, none⟩]
  | _ => []

/-- The registrations that a turn makes with a party. What somebody else is asked is not done. -/
def Party.registrations : Party → Turn → List Registration
  | .connection _, .chore x => x.registrations
  | .subscriber _, .bidding x => x.registrations
  | _, _ => []

/-- The handlers of a party. -/
def Party.handlers? : Party → Option Handlers
  | .connection c => some c.subscription.handlers
  | .subscriber s => some s.subscription.handlers
  | .nobody _ => none

namespace Connection

open Act

variable {hs : Handlers} {log : List Handled}

/-- A connection has these handlers, and since some calls were noted it has called handlers for
    events only. -/
structure Tends (hs : Handlers) (log : List Handled) (c : Connection) : Prop where
  handlers : c.subscription.handlers = hs
  calls : ∃ es : List Event, c.handled = log ++ es.flatMap hs.callsOf

theorem tends_refl (c : Connection) : c.Tends c.subscription.handlers c.handled :=
  ⟨rfl, [], (List.append_nil _).symm⟩

/-- Neither the stream nor a taint matters to the handlers. -/
theorem lasting_tends (hs : Handlers) (log : List Handled) : Lasting (Tends hs log) where
  wire _ _ _ h := ⟨h.handlers, h.calls⟩
  tainted {c} e h := by
    unfold Connection.tainted
    split
    · exact ⟨h.handlers, h.calls⟩
    · exact h

theorem transmit_tends (command : Command) : (transmit command).Keeps (Tends hs log) :=
  fun _ h => transmit_leaves (lasting_tends hs log) h command

theorem feed_tends (command : Command) : (feed command).Keeps (Tends hs log) :=
  fun _ h => feed_leaves (lasting_tends hs log) h command

theorem flush_tends : flush.Keeps (Tends hs log) :=
  fun _ h => flush_leaves (lasting_tends hs log) h

theorem nextFrame_tends : nextFrame.Keeps (Tends hs log) :=
  fun _ h => nextFrame_leaves (lasting_tends hs log) h

theorem readReply_tends : readReply.Keeps (Tends hs log) :=
  fun _ h => readReply_leaves (lasting_tends hs log) h

theorem fail_tends {α : Type} (e : Error) : (fail e : Act α).Keeps (Tends hs log) :=
  .fail (fun _ e h => (lasting_tends hs log).tainted e h) e

theorem project_tends (s : Shape) (r : Reply) : (project s r).Keeps (Tends hs log) :=
  fun _ h => project_leaves h s r

/-! ## Calls and transactions -/

theorem beginTransaction_tends (command : Command) :
    (beginTransaction command).Keeps (Tends hs log) := by
  refine .get fun c _ => .guard fun _ => ?_
  refine .seq (transmit_tends command) fun _ => .seq readReply_tends fun r => ?_
  split
  · exact .pure r
  · exact .seq (.update fun _ h => ⟨h.handlers, h.calls⟩) fun _ => .pure r

theorem endTransaction_tends (command : Command) :
    (endTransaction command).Keeps (Tends hs log) := by
  refine .seq (transmit_tends command) fun _ => ?_
  exact .seq (.update fun _ h => ⟨h.handlers, h.calls⟩) fun _ => readReply_tends

theorem execute_tends (command : Command) : (execute command).Keeps (Tends hs log) := by
  refine .seq (endTransaction_tends command) fun r => ?_
  split
  · exact .pure _
  · exact .pure _
  · exact .raise _
  · exact .raise _

theorem discard_tends (command : Command) : (discard command).Keeps (Tends hs log) :=
  .seq (endTransaction_tends command) fun r => project_tends _ r

theorem callReply_tends (command : Command) : (callReply command).Keeps (Tends hs log) := by
  refine .get fun c _ => ?_
  dsimp only
  split
  · exact beginTransaction_tends command
  split
  · exact .seq (execute_tends command) fun _ => .pure _
  split
  · exact .seq (discard_tends command) fun _ => .pure _
  split
  · exact .raise _
  · exact .seq (transmit_tends command) fun _ => readReply_tends

theorem call_tends (q : Request) : (call q).Keeps (Tends hs log) := by
  refine .usable (.get fun c _ => .guard fun _ => .guard fun _ => .guard fun _ => ?_)
  exact .seq (callReply_tends q.command) fun r => project_tends _ r

theorem multi_tends : multi.Keeps (Tends hs log) :=
  .seq (call_tends Catalog.multi) fun _ => .pure _

theorem queue_tends (command : Command) : (queue command).Keeps (Tends hs log) := by
  refine .usable (.get fun c _ => .guard fun _ => .guard fun _ => ?_)
  refine .seq (transmit_tends command) fun _ => .seq readReply_tends fun r => ?_
  split
  · exact .seq (.update fun _ h => ⟨h.handlers, h.calls⟩) fun _ => .pure _
  · exact .raise _
  · exact fail_tends _

theorem transaction_tends (commands : List Command) (ending : Transaction.Ending) :
    (Operation.transaction commands ending).act.Keeps (Tends hs log) := by
  refine .seq multi_tends fun t => ?_
  refine .seq (t.queueAll_keeps fun command _ => queue_tends command) fun queued => ?_
  have hfinish := Transaction.finish_keeps (I := Tends hs log) (fun _ => execute_tends _)
    (fun _ => discard_tends _)
  exact .seq (hfinish queued.2 ending) fun _ => .pure _

/-! ## Pipelines -/

theorem startPipeline_tends : startPipeline.Keeps (Tends hs log) :=
  .usable (.get fun _ h => .guard fun _ => .guard fun _ => .set ⟨h.handlers, h.calls⟩)

theorem write_tends (command : Command) : (write command).Keeps (Tends hs log) := by
  refine .usable (.get fun c _ => .guard fun _ => .guard fun _ => ?_)
  exact .seq (feed_tends command) fun _ => .update fun _ h => ⟨h.handlers, h.calls⟩

theorem finishPipeline_tends : finishPipeline.Keeps (Tends hs log) := by
  refine .usable (.get fun c h => .guard fun _ => ?_)
  exact .seq (.set ⟨h.handlers, h.calls⟩) fun _ => .seq flush_tends fun _ => .pure _

theorem collect_tends (count : Nat) (done : List Reply) :
    (collect count done).Keeps (Tends hs log) := by
  induction count generalizing done with
  | zero => exact .pure _
  | succ count ih => exact .seq readReply_tends fun r => ih (r :: done)

theorem endPipeline_tends : endPipeline.Keeps (Tends hs log) :=
  .seq finishPipeline_tends fun count => collect_tends count []

theorem endPipelineIgnored_tends : endPipelineIgnored.Keeps (Tends hs log) :=
  .seq finishPipeline_tends fun count => .seq (collect_tends count []) fun _ => .pure ()

/-! ## Push mode -/

theorem changeSubscription_tends (command : Command) :
    (changeSubscription command).Keeps (Tends hs log) := by
  refine .usable (.get fun c _ => .guard fun _ => ?_)
  exact .seq (transmit_tends command) fun _ => .update fun _ h => ⟨h.handlers, h.calls⟩

theorem applyPush_tends (r : Reply) : (applyPush r).Keeps (Tends hs log) := by
  refine .get fun c h => ?_
  have happlied := (handlers_apply c.subscription r).trans h.handlers
  generalize c.subscription.apply r = applied at happlied
  obtain ⟨outcome, subscription⟩ := applied
  refine .seq (.set ⟨happlied, h.calls⟩) fun _ => ?_
  cases outcome with
  | ok event => exact .pure event
  | error e => exact .raise e

/-- Here handlers are called: those for the event that is reported. -/
theorem observe_tends (e : Event) : (observe e).Keeps (Tends hs log) := by
  have hnotify (stop : Bool) : (do notify e; return stop : Act Bool).Keeps (Tends hs log) :=
    .seq (.update fun _ h => ⟨h.handlers, h.calls⟩) fun _ => .pure stop
  cases e with
  | received m =>
    have hdispatch : (dispatch m).Keeps (Tends hs log) := by
      intro c h
      obtain ⟨es, hes⟩ := h.calls
      have hcalled : Tends hs log { c with handled :=
          c.handled ++ (c.subscription.handlers.matching m).map fun h => ⟨h, m⟩ } := by
        refine ⟨h.handlers, es ++ [.received m], ?_⟩
        rw [List.flatMap_append, List.flatMap_singleton, ← List.append_assoc, ← hes, h.handlers]
        rfl
      exact .get (.seq (.update hcalled) fun _ _ => .pure)
    exact .seq hdispatch hnotify
  | changed change => exact .seq (.pure false) hnotify
  | queued status => exact .seq (.pure false) hnotify

theorem nextPushWithin_tends (fuel : Nat) : (nextPushWithin fuel).Keeps (Tends hs log) := by
  induction fuel with
  | zero => exact .halt _
  | succ fuel ih =>
    refine .usable (.get fun c _ => .guard fun _ => ?_)
    refine .seq readReply_tends fun r => .seq (applyPush_tends r) fun event => ?_
    cases event with
    | some event => exact .pure event
    | none => exact ih

theorem listenRound_tends (stop : Stop) (asked : Bool) :
    (listenRound stop asked).Keeps (Tends hs log) := by
  refine .get fun c _ => ?_
  split
  · exact .pure none
  refine .usable ?_
  split
  · exact .pure none
  refine .seq nextFrame_tends fun out => ?_
  split
  · rename_i r
    refine .seq (applyPush_tends r) fun event => ?_
    cases event with
    | some event => exact .seq (observe_tends event) fun asked => .pure (some asked)
    | none => exact .pure (some false)
  · refine .get fun c _ => ?_
    split
    · split
      · exact .pure none
      · exact .halt _
    · exact fail_tends _
  · exact fail_tends _

theorem listenWithin_tends (stop : Stop) (fuel : Nat) (asked : Bool) :
    (listenWithin stop fuel asked).Keeps (Tends hs log) := by
  induction fuel generalizing asked with
  | zero => exact .halt _
  | succ fuel ih =>
    rw [listenWithin_succ]
    refine .seq (listenRound_tends stop asked) fun onward => ?_
    cases onward with
    | some asked => exact ih asked
    | none => exact .pure ()

theorem close_tends : close.Keeps (Tends hs log) := by
  refine .get fun c h => ?_
  split
  · refine .seq (.set ⟨h.handlers, h.calls⟩) fun _ => .get fun c' h' => ?_
    split
    · exact .set ⟨h'.handlers, h'.calls⟩
    · exact .raise _
  · exact .pure ()

end Connection

/-! ## Whatever is done -/

open Connection in
/-- An operation registers what it says and calls handlers for events. -/
theorem Operation.act_tends (o : Operation) (c : Connection) :
    o.act.Leaves c
      (Tends (o.registrations.foldl Handlers.enrol c.subscription.handlers) c.handled) := by
  have hc := tends_refl c
  cases o with
  | call q => exact call_tends q c hc
  | read s =>
    have hread : (Connection.read s).Keeps (Tends c.subscription.handlers c.handled) :=
      .usable (.seq readReply_tends fun r => project_tends s r)
    exact hread c hc
  | startPipeline => exact startPipeline_tends c hc
  | write command => exact write_tends command c hc
  | endPipeline => exact endPipeline_tends c hc
  | endPipelineIgnored => exact endPipelineIgnored_tends c hc
  | queue command => exact queue_tends command c hc
  | transaction commands ending => exact transaction_tends commands ending c hc
  | subscribe channels => exact changeSubscription_tends _ c hc
  | psubscribe patterns => exact changeSubscription_tends _ c hc
  | unsubscribe channels => exact changeSubscription_tends _ c hc
  | punsubscribe patterns => exact changeSubscription_tends _ c hc
  | nextPush => exact .get (nextPushWithin_tends _ c hc)
  | listen stop => exact .get (listenWithin_tends stop _ _ c hc)
  | onMessage name h =>
    have hregistered : (c.onMessage name h).Tends
        (c.subscription.handlers.register name h) c.handled := ⟨rfl, [], (List.append_nil _).symm⟩
    exact .update hregistered
  | removeHandler name =>
    have hremoved : (c.removeHandler name).Tends
        (c.subscription.handlers.remove name) c.handled := ⟨rfl, [], (List.append_nil _).symm⟩
    exact .get (.seq (.set hremoved) fun _ _ => .pure)
  | watch => exact .update ⟨rfl, hc.calls⟩
  | close => exact close_tends c hc

theorem Chore.act_tends (x : Chore) (c : Connection) :
    (x.act.after c).Tends (x.registrations.foldl Handlers.enrol c.subscription.handlers)
      c.handled := by
  have hc := Connection.tends_refl c
  cases x with
  | operate o other => exact o.act_tends c
  | multi => exact Connection.multi_tends c hc
  | exec t => exact Connection.execute_tends _ c hc
  | discard t => exact Connection.discard_tends _ c hc
  | listenRound stop asked => exact Connection.listenRound_tends stop asked c hc

namespace Subscriber

variable {hs : Handlers} {log : List Handled} {s : Subscriber}

/-- A subscriber has these handlers, and since some calls were noted its loop has called handlers
    for events only. -/
structure Tends (hs : Handlers) (log : List Handled) (s : Subscriber) : Prop where
  handlers : s.subscription.handlers = hs
  calls : ∃ es : List Event, s.handled = log ++ es.flatMap hs.callsOf

theorem tends_refl (s : Subscriber) : s.Tends s.subscription.handlers s.handled :=
  ⟨rfl, [], (List.append_nil _).symm⟩

/-- The calls for a frame are those for its event, if it has one. -/
theorem handled_receive (s : Subscriber) (r : Reply) :
    (s.receive r).handled = s.handled ++ s.subscription.handlers.calls r := by
  cases hpush : Push.ofReply r with
  | ok push => rw [receive_of_ok hpush]
  | error e =>
    rw [Handlers.calls_of_error _ hpush, List.append_nil, receive_of_error hpush]

theorem handlers_receive (s : Subscriber) (r : Reply) :
    (s.receive r).subscription.handlers = s.subscription.handlers := by
  have happly := Connection.handlers_apply s.subscription r
  cases hpush : Push.ofReply r with
  | ok push =>
    rw [Subscription.apply_of_ok hpush] at happly
    rw [receive_of_ok hpush]
    exact happly
  | error e => rw [receive_of_error hpush]

theorem Tends.receive (h : s.Tends hs log) (r : Reply) : (s.receive r).Tends hs log := by
  obtain ⟨es, hes⟩ := h.calls
  refine ⟨(handlers_receive s r).trans h.handlers, es ++ r.event?.toList, ?_⟩
  rw [handled_receive, h.handlers, hes, Handlers.calls_eq, List.flatMap_append, List.append_assoc]

theorem Tends.settleWithin (h : s.Tends hs log) (frames : Nat) :
    (s.settleWithin frames).Tends hs log := by
  induction frames generalizing s with
  | zero => exact h
  | succ frames ih =>
    rw [Subscriber.settleWithin]
    split
    · exact h
    split
    · exact ⟨h.handlers, h.calls⟩
    generalize s.inlet.next s.stream = found
    obtain ⟨intake, inlet, stream⟩ := found
    have hread : Tends hs log { s with inlet, stream } := ⟨h.handlers, h.calls⟩
    cases intake with
    | frame r => exact ih (hread.receive r)
    | failure e => exact ⟨h.handlers, h.calls⟩
    | finished => exact ⟨h.handlers, h.calls⟩
    | pending => exact hread

theorem Tends.transmit {s' : Subscriber} (h : s.Tends hs log) {command : Command}
    (hsent : s.transmit command = .ok s') : s'.Tends hs log := by
  unfold Subscriber.transmit at hsent
  split at hsent
  · cases hsent
  split at hsent
  · cases hsent
  split at hsent
  · cases hsent
    exact ⟨h.handlers, h.calls⟩
  · cases hsent

end Subscriber

/-- What a subscriber is told registers what it says, and its loop calls handlers for events. -/
theorem Bidding.carry_tends (x : Bidding) (s : Subscriber) :
    (x.carry s).2.Tends (x.registrations.foldl Handlers.enrol s.subscription.handlers)
      s.handled := by
  have hs := s.tends_refl
  cases x with
  | transmit command =>
    show (attempted s (s.transmit command)).2.Tends _ _
    cases hsent : s.transmit command with
    | ok s' => exact hs.transmit hsent
    | error e => exact hs
  | onMessage name h => exact ⟨rfl, [], (List.append_nil _).symm⟩
  | removeHandler name => exact ⟨rfl, [], (List.append_nil _).symm⟩
  | receive frames => exact hs.settleWithin frames
  | shutDown => exact ⟨hs.handlers, hs.calls⟩

namespace Party

/-- A turn makes the registrations that it is asked for and no others, and it calls handlers only
    for events, those of the table that it leaves. -/
theorem carry_tends {p : Party} {hs : Handlers} (h : p.handlers? = some hs) (x : Turn) :
    (p.carry x).2.handlers? = some ((p.registrations x).foldl Handlers.enrol hs) ∧
    ∃ es : List Event, (p.carry x).2.handled =
      p.handled ++ es.flatMap ((p.registrations x).foldl Handlers.enrol hs).callsOf := by
  cases p with
  | connection c =>
    cases h
    cases x with
    | chore x =>
      have hafter := x.act_tends c
      exact ⟨congrArg some hafter.handlers, hafter.calls⟩
    | bidding x => exact ⟨rfl, [], (List.append_nil _).symm⟩
    | peer p => exact ⟨rfl, [], (List.append_nil _).symm⟩
  | subscriber s =>
    cases h
    cases x with
    | chore x => exact ⟨rfl, [], (List.append_nil _).symm⟩
    | bidding x =>
      have hafter := x.carry_tends s
      exact ⟨congrArg some hafter.handlers, hafter.calls⟩
    | peer p => exact ⟨rfl, [], (List.append_nil _).symm⟩
  | nobody mailbox => cases h

/-- Only where the stream was given up are there no handlers. -/
theorem exists_of_handlers?_eq_none {p : Party} (h : p.handlers? = none) :
    ∃ mailbox, p = .nobody mailbox := by
  cases p with
  | connection c => cases h
  | subscriber s => cases h
  | nobody mailbox => exact ⟨mailbox, rfl⟩

theorem carry_nobody (mailbox : Option Mailbox) (x : Turn) :
    (Party.nobody mailbox).carry x = (.nothing, .nobody mailbox) := by
  cases x <;> rfl

end Party

end RespLink
