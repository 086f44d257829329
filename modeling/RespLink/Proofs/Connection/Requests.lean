import RespLink.Proofs.Connection.Taint
import RespLink.Proofs.Push.Audience
import RespLink.Proofs.Request.Keyword

/-!
# Requests — what a connection is made to say

What a connection has sent and what it keeps back are requests, one behind the other. That holds
whatever becomes of what it is asked: a request that cannot be sent is kept back, and one that is
turned down is not encoded at all. So everything that a server will ever see has been let through
by some guard, and what the guards let through is found on the wire (`Connection.Said`).

None of this looks at who answers what, so the property is one that an act keeps (`Act.Keeps`)
rather than one that it ensures.
-/

namespace RespLink

namespace Act

variable {α β : Type} {I : Connection → Prop} {act : Act α}

/-- The act keeps an invariant, wherever it starts from and however it ends. -/
def Keeps (act : Act α) (I : Connection → Prop) : Prop := ∀ c, I c → act.Leaves c I

namespace Keeps

theorem pure (a : α) : (Pure.pure a : Act α).Keeps I := fun _ h => h

theorem raise (e : Error) : (Connection.raise e : Act α).Keeps I := fun _ h => h

theorem halt (halt : Halt) : (throw halt : Act α).Keeps I := fun _ h => h

theorem set {c : Connection} (h : I c) : (MonadStateOf.set c : Act Unit).Keeps I := fun _ _ => h

theorem update {f : Connection → Connection} (h : ∀ c, I c → I (f c)) :
    (modify f : Act Unit).Keeps I := fun c hc => .update (h c hc)

theorem get {next : Connection → Act β} (h : ∀ c, I c → (next c).Keeps I) :
    (MonadState.get >>= next).Keeps I := fun c hc => .get (h c hc c hc)

theorem seq {next : α → Act β} (h : act.Keeps I) (hnext : ∀ a, (next a).Keeps I) :
    (act >>= next).Keeps I := fun c hc => .seq (h c hc) fun a c' hc' => hnext a c' hc'

theorem map (f : α → β) (h : act.Keeps I) : (f <$> act).Keeps I := by
  rw [← bind_pure_comp]
  exact seq h fun a => pure (f a)

theorem fail (h : ∀ c e, I c → I (c.tainted e)) (e : Error) :
    (Connection.fail e : Act α).Keeps I := fun c hc => .fail (h c e hc)

theorem guard {refused : Prop} [Decidable refused] {r : Refusal} {next : Unit → Act α}
    (h : ¬ refused → (next ()).Keeps I) :
    (if refused then Connection.refuse r >>= next else next ()).Keeps I := by
  split
  · exact fun c hc => .of_error rfl hc
  · rename_i hr
    exact h hr

theorem usable {next : Unit → Act α} (h : (next ()).Keeps I) :
    (Connection.ensureUsable >>= next).Keeps I :=
  seq (fun _ hc => Connection.ensureUsable_leaves hc) fun _ => h

end Keeps

end Act

namespace Connection

open Act

/-- What was sent and what is kept back are requests for which `P` holds. -/
def Said (P : Command → Prop) (c : Connection) : Prop :=
  ∃ written, c.stream.sent ++ c.outgoing = Command.encodeAll written ∧
    ∀ command ∈ written, P command

variable {P : Command → Prop} {c : Connection} {command : Command}

theorem Said.tainted (h : c.Said P) (e : Error) : (c.tainted e).Said P := by
  unfold Connection.tainted
  split
  · exact h
  · exact h

theorem Said.flushed {stream : Stream} (h : c.Said P)
    (hsend : c.stream.send c.outgoing = .ok stream) :
    Said P { c with stream, outgoing := [] } := by
  obtain ⟨written, hwritten, hall⟩ := h
  obtain ⟨-, rfl⟩ := Stream.send_ok hsend
  refine ⟨written, ?_, hall⟩
  show (c.stream.sent ++ c.outgoing) ++ [] = _
  rw [List.append_nil, hwritten]

/-! ## Writing -/

theorem fail_keeps {α : Type} (e : Error) : (fail e : Act α).Keeps (Said P) :=
  .fail (fun _ e h => h.tainted e) e

theorem flush_keeps : flush.Keeps (Said P) := by
  refine .get fun c h => ?_
  split
  · exact .pure ()
  · split
    · rename_i stream hsend
      exact .set (h.flushed hsend)
    · exact fail_keeps _

theorem feed_keeps (hP : P command) : (feed command).Keeps (Said P) := by
  have hadd : (modify fun c => { c with outgoing := c.outgoing ++ command.encode } :
      Act Unit).Keeps (Said P) := by
    refine .update fun c ⟨written, hwritten, hall⟩ => ⟨written ++ [command], ?_, ?_⟩
    · show c.stream.sent ++ (c.outgoing ++ command.encode) = _
      rw [← List.append_assoc, hwritten, Command.encodeAll_append, Command.encodeAll_singleton]
    · exact List.forall_mem_append.mpr ⟨hall, List.forall_mem_singleton.mpr hP⟩
  refine .get fun c _ => ?_
  dsimp only
  split
  · exact .seq flush_keeps fun _ => hadd
  · exact hadd

theorem transmit_keeps (hP : P command) : (transmit command).Keeps (Said P) :=
  .seq (feed_keeps hP) fun _ => flush_keeps

/-! ## Reading -/

theorem nextFrame_keeps : nextFrame.Keeps (Said P) := by
  refine .get fun c h => ?_
  have hsame : Said P { c with inlet := (c.inlet.next c.stream).2.1,
                               stream := (c.inlet.next c.stream).2.2 } := by
    obtain ⟨arrived, harrived⟩ := (c.inlet.next_looked c.stream).stream
    rw [harrived]
    exact h
  generalize c.inlet.next c.stream = found at hsame
  obtain ⟨intake, inlet, stream⟩ := found
  refine .seq (.set hsame) fun _ => ?_
  cases intake with
  | frame r => exact .pure _
  | failure e => exact .pure _
  | finished => exact .pure _
  | pending =>
    dsimp only
    split
    · exact .pure _
    · exact .halt _

theorem readReply_keeps : readReply.Keeps (Said P) := by
  refine .seq nextFrame_keeps fun out => ?_
  cases out with
  | ok r => exact .pure r
  | error e => exact fail_keeps e

theorem project_keeps (s : Shape) (r : Reply) : (project s r).Keeps (Said P) :=
  fun _ h => project_leaves h s r

theorem collect_keeps (count : Nat) (done : List Reply) : (collect count done).Keeps (Said P) := by
  induction count generalizing done with
  | zero => exact .pure _
  | succ count ih => exact .seq readReply_keeps fun r => ih (r :: done)

/-! ## Calls and transactions -/

theorem beginTransaction_keeps (hP : P command) : (beginTransaction command).Keeps (Said P) := by
  refine .get fun c _ => .guard fun _ => ?_
  refine .seq (transmit_keeps hP) fun _ => .seq readReply_keeps fun r => ?_
  split
  · exact .pure r
  · exact .seq (.update fun _ h => h) fun _ => .pure r

theorem endTransaction_keeps (hP : P command) : (endTransaction command).Keeps (Said P) :=
  .seq (transmit_keeps hP) fun _ => .seq (.update fun _ h => h) fun _ => readReply_keeps

theorem execute_keeps (hP : P command) : (execute command).Keeps (Said P) := by
  refine .seq (endTransaction_keeps hP) fun r => ?_
  split
  · exact .pure _
  · exact .pure _
  · exact .raise _
  · exact .raise _

theorem discard_keeps (hP : P command) : (discard command).Keeps (Said P) :=
  .seq (endTransaction_keeps hP) fun r => project_keeps _ r

theorem callReply_keeps (hP : P command) : (callReply command).Keeps (Said P) := by
  refine .get fun c _ => ?_
  dsimp only
  split
  · exact beginTransaction_keeps hP
  split
  · exact .seq (execute_keeps hP) fun _ => .pure _
  split
  · exact .seq (discard_keeps hP) fun _ => .pure _
  split
  · exact .raise _
  · exact .seq (transmit_keeps hP) fun _ => readReply_keeps

/-- A call sends nothing but a command that is no subscription change by its name. -/
theorem call_keeps {q : Request} (hP : q.command.isSubscriptionChange = false → P q.command) :
    (call q).Keeps (Said P) := by
  refine .usable (.get fun c _ => .guard fun _ => .guard fun hchange => .guard fun _ => ?_)
  have hq := hP (Bool.eq_false_iff.mpr hchange)
  exact .seq (callReply_keeps hq) fun r => project_keeps _ r

theorem queue_keeps (hP : command.isSubscriptionChange = false → P command) :
    (queue command).Keeps (Said P) := by
  refine .usable (.get fun c _ => .guard fun _ => .guard fun hguard => ?_)
  have hq : P command := by
    refine hP (Bool.eq_false_iff.mpr fun hchange => hguard ?_)
    rw [hchange, Bool.or_true]
  refine .seq (transmit_keeps hq) fun _ => .seq readReply_keeps fun r => ?_
  split
  · exact .seq (.update fun _ h => h) fun _ => .pure _
  · exact .raise _
  · exact fail_keeps _

/-! ## Pipelines -/

theorem startPipeline_keeps : startPipeline.Keeps (Said P) :=
  .usable (.get fun _ h => .guard fun _ => .guard fun _ => .set h)

theorem write_keeps (hP : command.isSubscriptionChange = false → P command) :
    (write command).Keeps (Said P) := by
  refine .usable (.get fun c _ => .guard fun _ => .guard fun hchange => ?_)
  exact .seq (feed_keeps (hP (Bool.eq_false_iff.mpr hchange))) fun _ => .update fun _ h => h

theorem finishPipeline_keeps : finishPipeline.Keeps (Said P) := by
  refine .usable (.get fun c h => .guard fun _ => ?_)
  exact .seq (.set h) fun _ => .seq flush_keeps fun _ => .pure _

theorem endPipeline_keeps : endPipeline.Keeps (Said P) :=
  .seq finishPipeline_keeps fun count => collect_keeps count []

theorem endPipelineIgnored_keeps : endPipelineIgnored.Keeps (Said P) :=
  .seq finishPipeline_keeps fun count => .seq (collect_keeps count []) fun _ => .pure ()

/-! ## Push mode -/

theorem changeSubscription_keeps (hP : P command) :
    (changeSubscription command).Keeps (Said P) := by
  refine .usable (.get fun c _ => .guard fun _ => ?_)
  exact .seq (transmit_keeps hP) fun _ => .update fun _ h => h

theorem applyPush_keeps (r : Reply) : (applyPush r).Keeps (Said P) := by
  refine .get fun c h => ?_
  generalize c.subscription.apply r = applied
  obtain ⟨outcome, subscription⟩ := applied
  refine .seq (.set h) fun _ => ?_
  cases outcome with
  | ok event => exact .pure event
  | error e => exact .raise e

theorem observe_keeps (e : Event) : (observe e).Keeps (Said P) := by
  have hdispatch (m : Message) : (dispatch m).Keeps (Said P) :=
    .get fun _ _ => .seq (.update fun _ h => h) fun _ => .pure _
  cases e with
  | received m =>
    exact .seq (hdispatch m) fun stop => .seq (.update fun _ h => h) fun _ => .pure stop
  | changed change =>
    exact .seq (.pure false) fun stop => .seq (.update fun _ h => h) fun _ => .pure stop
  | queued status =>
    exact .seq (.pure false) fun stop => .seq (.update fun _ h => h) fun _ => .pure stop

theorem nextPushWithin_keeps (fuel : Nat) : (nextPushWithin fuel).Keeps (Said P) := by
  induction fuel with
  | zero => exact .halt _
  | succ fuel ih =>
    refine .usable (.get fun c _ => .guard fun _ => ?_)
    refine .seq readReply_keeps fun r => .seq (applyPush_keeps r) fun event => ?_
    cases event with
    | some event => exact .pure event
    | none => exact ih

theorem listenWithin_keeps (stop : Stop) (fuel : Nat) (asked : Bool) :
    (listenWithin stop fuel asked).Keeps (Said P) := by
  induction fuel generalizing asked with
  | zero => exact .halt _
  | succ fuel ih =>
    refine .get fun c _ => ?_
    split
    · exact .pure ()
    refine .usable ?_
    split
    · exact .pure ()
    refine .seq nextFrame_keeps fun out => ?_
    split
    · rename_i r
      refine .seq (applyPush_keeps r) fun event => ?_
      cases event with
      | some event => exact .seq (observe_keeps event) fun asked => ih asked
      | none => exact ih false
    · refine .get fun c _ => ?_
      split
      · split
        · exact .pure ()
        · exact .halt _
      · exact fail_keeps _
    · exact fail_keeps _

theorem close_keeps : close.Keeps (Said P) := by
  refine .get fun c h => ?_
  split
  · have hclosed : Said P { c with
        connected := false, taint := some (c.taint.getD "closed by client") } := h
    refine .seq (.set hclosed) fun _ => .get fun c' h' => ?_
    split
    · rename_i stream hsend
      have hsent : Said P { c' with stream, outgoing := [] } := by
        split at hsend
        · rename_i hempty
          cases hsend
          rw [List.isEmpty_iff] at hempty
          rw [← hempty]
          exact h'
        · exact h'.flushed hsend
      exact .set hsent
    · exact .raise _
  · exact .pure ()

/-! ## Going on after a failure -/

/-- Going on after a failure makes no difference to what is left behind. -/
theorem after_attempt {α : Type} (act : Act α) (c : Connection) :
    (attempt act).after c = act.after c := by
  unfold Act.after attempt EStateM.run
  cases act c with
  | ok a c' => rfl
  | error halt c' => cases halt <;> rfl

theorem attempt_keeps {α : Type} {act : Act α} {I : Connection → Prop} (h : act.Keeps I) :
    (attempt act).Keeps I := by
  intro c hc
  rw [Act.Leaves, after_attempt]
  exact h c hc

end Connection

namespace Transaction

open Connection

variable {I : Connection → Prop}

/-- Queueing one command after the other keeps what queueing each of them does. -/
theorem queueAll_keeps {commands : List Command}
    (hqueue : ∀ command ∈ commands, (Connection.queue command).Keeps I) (t : Transaction) :
    (t.queueAll commands).Keeps I := by
  induction commands generalizing t with
  | nil => exact .pure _
  | cons command commands ih =>
    have hrest := ih fun d hd => hqueue d (List.mem_cons_of_mem _ hd)
    have hfirst : (t.queue command).Keeps I :=
      .seq (hqueue command List.mem_cons_self) fun _ => .pure _
    refine .seq (attempt_keeps hfirst) fun outcome => ?_
    cases outcome with
    | ok queued => exact .seq (hrest queued.2) fun _ => .pure _
    | error e => exact .seq (hrest t) fun _ => .pure _

theorem finish_keeps (hexec : ∀ t : Transaction, t.exec.Keeps I)
    (hdiscard : ∀ t : Transaction, t.discard.Keeps I) (t : Transaction) (ending : Ending) :
    (t.finish ending).Keeps I := by
  cases ending with
  | exec => exact Act.Keeps.map _ (attempt_keeps (hexec t))
  | discard => exact Act.Keeps.map _ (attempt_keeps (.seq (hdiscard t) fun _ => .pure _))
  | abandon => exact .pure _

end Transaction

/-! ## Whatever a connection is asked -/

/-- The commands that an operation is given. -/
def Operation.commands : Operation → List Command
  | .call q => [q.command]
  | .write command => [command]
  | .queue command => [command]
  | .transaction commands _ => commands
  | _ => []

/-- The commands that something which happens brings with it. -/
def Happening.commands : Happening → List Command
  | .deed (.operate o) => o.commands
  | _ => []

/-- The subscription change that something which happens asks for. -/
def Happening.change? : Happening → Option Change
  | .deed (.operate o) => o.change?
  | _ => none

section

open Connection

variable {P : Command → Prop} (hplain : ∀ command : Command, command.subscribes = false → P command)
include hplain

theorem of_named {command : Command} (hnamed : command.words ≠ [])
    (hchange : command.isSubscriptionChange = false) : P command := by
  rw [Command.isSubscriptionChange_eq hnamed] at hchange
  exact hplain command hchange

theorem Connection.multi_keeps : multi.Keeps (Said P) := by
  have hmulti : P Catalog.multi.command := hplain _ (by decide +kernel)
  exact .seq (call_keeps fun _ => hmulti) fun _ => .pure _

theorem Transaction.exec_keeps (t : Transaction) : t.exec.Keeps (Said P) :=
  execute_keeps (hplain Catalog.exec.command (by decide +kernel))

theorem Transaction.discard_keeps (t : Transaction) : t.discard.Keeps (Said P) :=
  Connection.discard_keeps (hplain Catalog.discard.command (by decide +kernel))

/-- Every operation says only what it was given by a name, and what it was asked to subscribe. -/
theorem Operation.act_keeps (o : Operation) (hnamed : ∀ command ∈ o.commands, command.words ≠ [])
    (hchange : ∀ ch, o.change? = some ch → P ch.command) : o.act.Keeps (Said P) := by
  cases o with
  | call q => exact call_keeps (of_named hplain (hnamed _ List.mem_cons_self))
  | read s => exact .usable (.seq readReply_keeps fun r => project_keeps s r)
  | startPipeline => exact startPipeline_keeps
  | write command => exact write_keeps (of_named hplain (hnamed _ List.mem_cons_self))
  | endPipeline => exact endPipeline_keeps
  | endPipelineIgnored => exact endPipelineIgnored_keeps
  | queue command => exact queue_keeps (of_named hplain (hnamed _ List.mem_cons_self))
  | transaction commands ending =>
    have hqueue (command : Command) (hmem : command ∈ commands) :=
      queue_keeps (of_named hplain (hnamed command hmem))
    have hend := Transaction.finish_keeps (Transaction.exec_keeps hplain)
      (Transaction.discard_keeps hplain)
    refine .seq (multi_keeps hplain) fun t => ?_
    refine .seq (Transaction.queueAll_keeps hqueue t) fun queued => ?_
    exact .seq (hend queued.2 ending) fun _ => .pure _
  | subscribe channels => exact changeSubscription_keeps (hchange _ rfl)
  | psubscribe patterns => exact changeSubscription_keeps (hchange _ rfl)
  | unsubscribe channels => exact changeSubscription_keeps (hchange _ rfl)
  | punsubscribe patterns => exact changeSubscription_keeps (hchange _ rfl)
  | nextPush => exact .get fun _ _ => nextPushWithin_keeps _
  | listen stop => exact .get fun _ _ => listenWithin_keeps stop _ _
  | onMessage name handler => exact .update fun _ h => h
  | removeHandler name => exact .get fun _ h => .seq (.set h) fun _ => .pure _
  | watch => exact .update fun _ h => h
  | close => exact close_keeps

theorem Connection.Said.undergo {c : Connection} (h : c.Said P) {x : Happening}
    (hnamed : ∀ command ∈ x.commands, command.words ≠ [])
    (hchange : ∀ ch, x.change? = some ch → P ch.command) : (c.undergo x).Said P := by
  cases x with
  | deed d =>
    cases d with
    | operate o =>
      have ho : (Deed.operate o).act.Keeps (Said P) :=
        .seq (o.act_keeps hplain hnamed hchange) fun _ => .pure ()
      exact ho c h
    | multi =>
      have hm : Deed.multi.act.Keeps (Said P) := .seq (multi_keeps hplain) fun _ => .pure ()
      exact hm c h
    | exec t =>
      have he : (Deed.exec t).act.Keeps (Said P) := .seq (t.exec_keeps hplain) fun _ => .pure ()
      exact he c h
    | discard t => exact t.discard_keeps hplain c h
    | abandon => exact h
  | peer p => cases p <;> exact h

theorem Connection.Said.live {c : Connection} {happenings : List Happening} (h : c.Said P)
    (hnamed : ∀ x ∈ happenings, ∀ command ∈ x.commands, command.words ≠ [])
    (hchange : ∀ x ∈ happenings, ∀ ch, x.change? = some ch → P ch.command) :
    (c.live happenings).Said P := by
  induction happenings generalizing c with
  | nil => exact h
  | cons x happenings ih =>
    have hfirst := h.undergo hplain (hnamed x List.mem_cons_self) (hchange x List.mem_cons_self)
    exact ih hfirst (fun y hy => hnamed y (List.mem_cons_of_mem _ hy))
      fun y hy => hchange y (List.mem_cons_of_mem _ hy)

end

/-- If every command that a connection is given has a name, the requests that it sends to change a
    subscription are those that it was asked for, and no others. -/
theorem Connection.only_of_live (stream : Stream) (settings : Settings)
    {happenings : List Happening} (hsent : stream.sent = [])
    (hnamed : ∀ x ∈ happenings, ∀ command ∈ x.commands, command.words ≠ []) :
    Command.Only (fun d => d.subscribes → ∃ x ∈ happenings, ∃ ch, x.change? = some ch ∧
      d = ch.command) ((ofStream stream settings).live happenings).stream.sent := by
  have hstart : (ofStream stream settings).Said fun d => d.subscribes →
      ∃ x ∈ happenings, ∃ ch, x.change? = some ch ∧ d = ch.command := by
    refine ⟨[], ?_, by simp⟩
    show stream.sent ++ [] = _
    rw [hsent]
    rfl
  obtain ⟨written, hwritten, hall⟩ := hstart.live
    (fun command hplain hsub => absurd hsub (by simp [hplain])) hnamed
    fun x hx ch hch _ => ⟨x, hx, ch, hch, rfl⟩
  exact ⟨written, ⟨_, hwritten⟩, hall⟩

end RespLink
