import RespLink.Proofs.Connection.Taint
import RespLink.Proofs.Connection.Taking
import RespLink.Proofs.Shape.Project

/-!
# Refusing — a request that is turned down changes nothing

A connection turns requests down by looking at its own books, and it does so before it has done
anything else. So what is turned down leaves the connection as it was: nothing was sent or kept
back, nothing was read, no mode has changed and nothing was reported.

Two things are to be shown of every act. From where it starts it may refuse (`RefusesAtOnce`), but
only as the connection stands; and what comes after the first write or read is *willing*: it fails
because of the stream or of a reply, and never refuses. Taking the next event is the one loop among
them. It asks in every round whether anything is subscribed, and only the first time can the answer
be no, since a round that goes on has changed nothing.
-/

namespace RespLink

/-- Whether a request was turned down for what it is. -/
def Error.isUsage : Error → Bool
  | .usage _ => true
  | _ => false

theorem Error.not_isUsage_of_isFatal {e : Error} (h : e.isFatal) : e.isUsage = false := by
  cases e with
  | usage r => cases h
  | _ => rfl

theorem Error.AboutReply.not_isUsage {e : Error} (h : e.AboutReply) : e.isUsage = false := by
  cases h <;> rfl

namespace Act

variable {α β : Type} {act : Act α} {c c' : Connection}

/-- The act goes on where the connection is usable, and fails where it is not. -/
theorem Ensures.usable_or {next : Unit → Act α} {ok : α → Connection → Prop}
    {failed : Error → Connection → Prop} (htainted : ∀ reason, failed (.tainted reason) c)
    (h : (next ()).Ensures c ok failed) :
    (Connection.ensureUsable >>= next).Ensures c ok failed := by
  cases htaint : c.taint with
  | none => exact .usable htaint h
  | some reason =>
    unfold Ensures
    rw [Connection.bind_of_tainted htaint]
    exact htainted reason

/-- From `c` the act never ends with a refusal. -/
def Willing (act : Act α) (c : Connection) : Prop :=
  act.Ensures c (fun _ _ => True) fun e _ => e.isUsage = false

/-- From `c` the act ends with a refusal only where it has changed nothing. -/
def RefusesAtOnce (act : Act α) (c : Connection) : Prop :=
  act.Ensures c (fun _ _ => True) fun e c' => e.isUsage → c' = c

namespace Willing

theorem pure (a : α) : (Pure.pure a : Act α).Willing c := trivial

theorem raise {e : Error} (h : e.isUsage = false) : (Connection.raise e : Act α).Willing c := h

theorem fail {e : Error} (h : e.isUsage = false) : (Connection.fail e : Act α).Willing c := h

theorem wait : (throw .waiting : Act α).Willing c := trivial

theorem get {next : Connection → Act β} (h : (next c).Willing c) :
    (MonadState.get >>= next).Willing c := h

theorem update (f : Connection → Connection) : (modify f : Act Unit).Willing c := trivial

theorem seq {next : α → Act β} (h : act.Willing c) (hnext : ∀ a c', (next a).Willing c') :
    (act >>= next).Willing c :=
  Ensures.seq h fun a c' _ => hnext a c'

theorem at_once (h : act.Willing c) : act.RefusesAtOnce c :=
  h.mono (fun _ _ h => h) fun e _ he hrefused => absurd hrefused (by simp [he])

end Willing

namespace RefusesAtOnce

theorem get {next : Connection → Act β} (h : (next c).RefusesAtOnce c) :
    (MonadState.get >>= next).RefusesAtOnce c := h

theorem seq {next : α → Act β} (h : act.RefusesAtOnce c)
    (hnext : ∀ a c', (next a).Willing c') : (act >>= next).RefusesAtOnce c := by
  refine .bind (h.mono ?_ fun _ _ he => he)
  intro a c' _
  exact (hnext a c').mono (fun _ _ h => h) fun e _ he hrefused => absurd hrefused (by simp [he])

/-- What is turned down here is turned down at once. -/
theorem guard {refused : Prop} [Decidable refused] {r : Refusal} {next : Unit → Act α}
    (h : ¬ refused → (next ()).RefusesAtOnce c) :
    (if refused then Connection.refuse r >>= next else next ()).RefusesAtOnce c :=
  Ensures.guard (fun _ _ => rfl) h

theorem usable {next : Unit → Act α} (h : (next ()).RefusesAtOnce c) :
    (Connection.ensureUsable >>= next).RefusesAtOnce c :=
  Ensures.usable_or (fun _ _ => rfl) h

theorem eq_of_run {r : Refusal} (h : act.RefusesAtOnce c)
    (hrun : act c = .error (.failed (.usage r)) c') : c' = c :=
  h.failed_of_run hrun rfl

end RefusesAtOnce

theorem exists_of_error? {e : Error} (h : act.error? c = some e) :
    ∃ c', act c = .error (.failed e) c' := by
  unfold error? at h
  split at h
  · rename_i e' c' hrun
    cases h
    exact ⟨c', hrun⟩
  · cases h

end Act

namespace Push

variable {r : Reply} {e : Error}

theorem aboutReply_of_textItem {expected : Expected} {items : List Reply}
    (h : textItem expected items = .error e) : e.AboutReply := by
  unfold textItem at h
  split at h
  · cases h
    exact .unexpected _ _
  · split at h <;> cases h
    exact .unexpected _ _

theorem aboutReply_of_payloadItem {items : List Reply} (h : payloadItem items = .error e) :
    e.AboutReply := by
  unfold payloadItem at h
  split at h <;> cases h
  exact .unexpected _ _

theorem aboutReply_of_acknowledged {kind : PushKind} {items : List Reply}
    (h : acknowledged kind items = .error e) : e.AboutReply := by
  unfold acknowledged at h
  split at h <;> cases h
  exact .unexpected _ _

theorem exists_error_of_bind {ε α β : Type} {x : Except ε α} {f : α → Except ε β} {e : ε}
    (h : x >>= f = .error e) : x = .error e ∨ ∃ a, f a = .error e := by
  cases x with
  | error e' => cases h; exact Or.inl rfl
  | ok a => exact Or.inr ⟨a, h⟩

theorem aboutReply_of_ofItems {kind : PushKind} {items : List Reply}
    (h : ofItems kind items = .error e) : e.AboutReply := by
  cases kind with
  | message =>
    rcases exists_error_of_bind h with h | ⟨_, h⟩
    · exact aboutReply_of_textItem h
    rcases exists_error_of_bind h with h | ⟨_, h⟩
    · exact aboutReply_of_payloadItem h
    · cases h
  | pmessage =>
    rcases exists_error_of_bind h with h | ⟨_, h⟩
    · exact aboutReply_of_textItem h
    rcases exists_error_of_bind h with h | ⟨_, h⟩
    · exact aboutReply_of_textItem h
    rcases exists_error_of_bind h with h | ⟨_, h⟩
    · exact aboutReply_of_payloadItem h
    · cases h
  | pong => cases h
  | _ => exact aboutReply_of_acknowledged h

/-- A frame that is no pushed one is faulty as a reply, and no request. -/
theorem aboutReply_of_ofReply (h : ofReply r = .error e) : e.AboutReply := by
  unfold ofReply at h
  split at h
  · split at h
    · exact aboutReply_of_ofItems h
    · cases h
      exact .unexpected _ _
  · cases h
    exact .server _
  · cases h
    exact .unexpected _ _

end Push

theorem Subscription.aboutReply_of_apply {s : Subscription} {r : Reply} {e : Error}
    (h : (s.apply r).1 = .error e) : e.AboutReply := by
  cases hpush : Push.ofReply r with
  | ok push =>
    rw [Subscription.apply_of_ok hpush] at h
    cases h
  | error e' =>
    rw [Subscription.apply_of_error hpush] at h
    cases h
    exact Push.aboutReply_of_ofReply hpush

namespace Connection

open Act

variable {c : Connection}

/-! ## What never refuses -/

theorem flush_willing : flush.Willing c := by
  apply Willing.get
  split
  · exact .pure ()
  · split
    · trivial
    · exact .fail rfl

theorem feed_willing (command : Command) : (feed command).Willing c := by
  apply Willing.get
  dsimp only
  split
  · exact .seq flush_willing fun _ _ => .update _
  · exact .update _

theorem transmit_willing (command : Command) : (transmit command).Willing c :=
  .seq (feed_willing command) fun _ _ => flush_willing

/-- The error that stands for the next frame is the stream's. -/
theorem nextFrame_fatal : nextFrame.Ensures c (fun out _ => ∀ e, out = .error e → e.isFatal)
    (fun _ _ => False) := by
  have hfatal := (c.inlet.next_looked c.stream).fatal
  unfold nextFrame
  apply Act.Ensures.get
  generalize c.inlet.next c.stream = found at hfatal
  obtain ⟨intake, inlet, stream⟩ := found
  refine .bind (.set ?_)
  cases intake with
  | frame r => exact .pure (by simp)
  | failure e =>
    refine .pure fun e' he => ?_
    cases he
    exact hfatal e rfl
  | finished =>
    refine .pure fun e he => ?_
    cases he
    rfl
  | pending =>
    dsimp only
    split
    · refine .pure fun e he => ?_
      cases he
      rfl
    · trivial

theorem readReply_willing : readReply.Willing c := by
  refine .bind (nextFrame_fatal.mono ?_ fun _ _ h => h.elim)
  intro out c' hfatal
  cases out with
  | ok r => exact Willing.pure r
  | error e => exact Willing.fail (Error.not_isUsage_of_isFatal (hfatal e rfl))

theorem project_willing (s : Shape) (r : Reply) : (project s r).Willing c := by
  unfold project
  split
  · exact .pure _
  · rename_i e he
    exact .raise (Shape.aboutReply_of_project he).not_isUsage

theorem endTransaction_willing (command : Command) : (endTransaction command).Willing c :=
  .seq (transmit_willing command) fun _ _ => .seq (.update _) fun _ _ => readReply_willing

theorem execute_willing (command : Command) : (execute command).Willing c := by
  refine .seq (endTransaction_willing command) fun r c' => ?_
  split
  · exact .pure _
  · exact .pure _
  · exact .raise rfl
  · exact .raise rfl

theorem discard_willing (command : Command) : (discard command).Willing c :=
  .seq (endTransaction_willing command) fun r _ => project_willing _ r

theorem collect_willing (count : Nat) (done : List Reply) : (collect count done).Willing c := by
  induction count generalizing done c with
  | zero => exact .pure _
  | succ count ih => exact .seq readReply_willing fun r _ => ih (r :: done)

/-- A pushed frame that reports nothing has changed nothing. -/
theorem applyPush_silent (r : Reply) :
    (applyPush r).Ensures c (fun event c' => event = none → c' = c)
      (fun e _ => e.isUsage = false) := by
  have hsilent : (c.subscription.apply r).1 = .ok none →
      (c.subscription.apply r).2 = c.subscription := Subscription.eq_of_apply_silent
  have habout : ∀ e, (c.subscription.apply r).1 = .error e → e.AboutReply :=
    fun e => Subscription.aboutReply_of_apply
  unfold applyPush
  apply Act.Ensures.get
  generalize c.subscription.apply r = applied at hsilent habout
  obtain ⟨outcome, subscription⟩ := applied
  refine .bind (.set ?_)
  cases outcome with
  | ok event =>
    refine Act.Ensures.pure fun hnone => ?_
    subst hnone
    rw [show subscription = c.subscription from hsilent rfl]
  | error e => exact Act.Ensures.raise (habout e rfl).not_isUsage

theorem applyPush_willing (r : Reply) : (applyPush r).Willing c :=
  (applyPush_silent r).mono (fun _ _ _ => trivial) fun _ _ h => h

theorem observe_willing (e : Event) : (observe e).Willing c := by
  cases e with
  | received m =>
    have hdispatch : ∀ c', (dispatch m).Willing c' := fun c' =>
      .get (.seq (.update _) fun _ _ => .pure _)
    exact .seq (hdispatch c) fun stop _ => .seq (.update _) fun _ _ => .pure stop
  | changed change => exact .seq (.pure false) fun stop _ => .seq (.update _) fun _ _ => .pure stop
  | queued status => exact .seq (.pure false) fun stop _ => .seq (.update _) fun _ _ => .pure stop

theorem ensureUsable_willing : ensureUsable.Willing c := by
  apply Willing.get
  split
  · exact .raise rfl
  · exact .pure ()

theorem listenWithin_willing (stop : Stop) (fuel : Nat) (asked : Bool) :
    (listenWithin stop fuel asked).Willing c := by
  induction fuel generalizing asked c with
  | zero => exact .wait
  | succ fuel ih =>
    apply Willing.get
    split
    · exact .pure ()
    refine .seq ensureUsable_willing fun _ c₁ => ?_
    split
    · exact .pure ()
    refine .bind (nextFrame_fatal.mono ?_ fun _ _ h => h.elim)
    intro out c₂ hfatal
    cases out with
    | ok r =>
      refine Willing.seq (applyPush_willing r) fun event c₃ => ?_
      cases event with
      | some event => exact .seq (observe_willing event) fun asked _ => ih asked
      | none => exact ih false
    | error e =>
      have hfail := Willing.fail (α := Unit) (c := c₂)
        (Error.not_isUsage_of_isFatal (hfatal e rfl))
      cases e with
      | timeout span =>
        apply Act.Ensures.get
        split
        · split
          · exact Willing.pure ()
          · exact Willing.wait
        · exact hfail
      | _ => exact hfail

/-! ## What refuses at once -/

theorem beginTransaction_refuses (command : Command) :
    (beginTransaction command).RefusesAtOnce c := by
  refine .get (.guard fun _ => Willing.at_once ?_)
  refine .seq (transmit_willing command) fun _ _ => .seq readReply_willing fun r _ => ?_
  split
  · exact .pure r
  · exact .seq (.update _) fun _ _ => .pure r

theorem callReply_refuses (command : Command) : (callReply command).RefusesAtOnce c := by
  apply RefusesAtOnce.get
  dsimp only
  split
  · exact beginTransaction_refuses command
  split
  · exact Willing.at_once (.seq (execute_willing command) fun _ _ => .pure _)
  split
  · exact Willing.at_once (.seq (discard_willing command) fun _ _ => .pure _)
  split
  · exact Act.Ensures.raise fun _ => rfl
  · exact Willing.at_once (.seq (transmit_willing command) fun _ _ => readReply_willing)

theorem call_refuses (q : Request) : (call q).RefusesAtOnce c := by
  refine .usable (.get (.guard fun _ => .guard fun _ => .guard fun _ => ?_))
  exact .seq (callReply_refuses q.command) fun r _ => project_willing _ r

theorem multi_refuses : multi.RefusesAtOnce c :=
  .seq (call_refuses Catalog.multi) fun _ _ => .pure _

theorem startPipeline_refuses : startPipeline.RefusesAtOnce c :=
  .usable (.get (.guard fun _ => .guard fun _ => trivial))

theorem write_refuses (command : Command) : (write command).RefusesAtOnce c := by
  refine .usable (.get (.guard fun _ => .guard fun _ => Willing.at_once ?_))
  exact .seq (feed_willing command) fun _ _ => .update _

theorem finishPipeline_refuses : finishPipeline.RefusesAtOnce c := by
  refine .usable (.get (.guard fun _ => Willing.at_once ?_))
  exact .seq trivial fun _ _ => .seq flush_willing fun _ _ => .pure _

theorem endPipeline_refuses : endPipeline.RefusesAtOnce c :=
  .seq finishPipeline_refuses fun count _ => collect_willing count []

theorem endPipelineIgnored_refuses : endPipelineIgnored.RefusesAtOnce c :=
  .seq finishPipeline_refuses fun count _ => .seq (collect_willing count []) fun _ _ => .pure ()

theorem queue_refuses_at_once (command : Command) : (queue command).RefusesAtOnce c := by
  refine .usable (.get (.guard fun _ => .guard fun _ => Willing.at_once ?_))
  refine .seq (transmit_willing command) fun _ _ => .seq readReply_willing fun r _ => ?_
  split
  · exact .seq (.update _) fun _ _ => .pure _
  · exact .raise rfl
  · exact .fail rfl

theorem changeSubscription_refuses (command : Command) :
    (changeSubscription command).RefusesAtOnce c := by
  refine .usable (.get (.guard fun _ => Willing.at_once ?_))
  exact .seq (transmit_willing command) fun _ _ => .update _

/-! ## Taking the next event -/

/-- What follows the question whether anything is subscribed, in each round of taking an event. -/
theorem takeEvent_willing {next : Act Event} (hactive : c.subscription.active = true)
    (hnext : ∀ c', c'.subscription.active = true → next.Willing c') :
    Willing (do
      match ← applyPush (← readReply) with
      | some event => return event
      | none => next) c := by
  refine .bind ((readReply_willing.and_leaves (readReply_leaves lasting_active hactive)).mono ?_
    fun _ _ h => h.1)
  rintro r c₁ ⟨-, hactive₁⟩
  refine .bind ((applyPush_silent r).mono ?_ fun _ _ h => h)
  intro event c₂ hsilent
  cases event with
  | some event => exact Willing.pure event
  | none =>
    -- a frame that reports nothing leaves push mode alone, so the next round is not refused
    rw [hsilent rfl]
    exact hnext c₁ hactive₁

/-- In push mode a connection takes frame after frame and is never asked to stop. -/
theorem nextPushWithin_willing (fuel : Nat) (hactive : c.subscription.active = true) :
    (nextPushWithin fuel).Willing c := by
  induction fuel generalizing c with
  | zero => exact .wait
  | succ fuel ih =>
    refine .usable_or (fun _ => rfl) ?_
    refine .get (.guard (fun hidle => absurd hidle (by simp [hactive])) fun _ => ?_)
    exact takeEvent_willing hactive fun _ => ih

theorem nextPush_refuses : nextPush.RefusesAtOnce c := by
  show (nextPushWithin (c.backlog + 2)).RefusesAtOnce c
  rw [nextPushWithin]
  refine .usable (.get (.guard fun hidle => Willing.at_once ?_))
  have hactive : c.subscription.active = true := by simpa using hidle
  exact takeEvent_willing hactive fun _ => nextPushWithin_willing _

/-! ## Everything else -/

theorem read_refuses (s : Shape) : (read s).RefusesAtOnce c :=
  .usable (Willing.at_once (.seq readReply_willing fun r _ => project_willing s r))

theorem listen_willing (stop : Stop) : (listen stop).Willing c :=
  .get (listenWithin_willing stop _ _)

theorem close_willing : close.Willing c := by
  apply Willing.get
  split
  · refine .seq trivial fun _ c' => .get ?_
    split
    · trivial
    · exact .raise rfl
  · exact .pure ()

theorem attempt_willing {α : Type} (act : Act α) : (attempt act).Willing c := by
  unfold Willing Ensures attempt EStateM.run
  cases act c with
  | ok a c' => trivial
  | error halt c' => cases halt <;> trivial

end Connection

namespace Transaction

open Connection Act

variable {c : Connection}

theorem queueAll_willing (t : Transaction) (commands : List Command) :
    (t.queueAll commands).Willing c := by
  induction commands generalizing t c with
  | nil => exact .pure _
  | cons command commands ih =>
    refine .seq (attempt_willing _) fun outcome _ => ?_
    cases outcome with
    | ok queued => exact .seq (ih queued.2) fun _ _ => .pure _
    | error e => exact .seq (ih t) fun _ _ => .pure _

theorem finish_willing (t : Transaction) (ending : Ending) : (t.finish ending).Willing c := by
  have hmap {α β : Type} (f : α → β) (act : Act α) (h : act.Willing c) :
      (f <$> act).Willing c := by
    have hbind : f <$> act = act >>= fun a => Pure.pure (f a) := (bind_pure_comp f act).symm
    rw [hbind]
    exact .seq h fun _ _ => .pure _
  cases ending with
  | exec => exact hmap _ _ (attempt_willing _)
  | discard => exact hmap _ _ (attempt_willing _)
  | abandon => exact .pure _

/-- A command that cannot be queued through the handle leaves the connection as it was. -/
theorem queue_refuses (t : Transaction) (command : Command) : (t.queue command).RefusesAtOnce c :=
  .seq (queue_refuses_at_once command) fun _ _ => .pure _

end Transaction

/-- Whatever a connection is asked, it turns it down at once or does not turn it down. -/
theorem Operation.act_refuses (o : Operation) (c : Connection) : o.act.RefusesAtOnce c := by
  cases o with
  | call q => exact Connection.call_refuses q
  | read s => exact Connection.read_refuses s
  | startPipeline => exact Connection.startPipeline_refuses
  | write command => exact Connection.write_refuses command
  | endPipeline => exact Connection.endPipeline_refuses
  | endPipelineIgnored => exact Connection.endPipelineIgnored_refuses
  | queue command => exact Connection.queue_refuses_at_once command
  | transaction commands ending =>
    refine .seq Connection.multi_refuses fun t c' => ?_
    refine .seq (t.queueAll_willing commands) fun queued c'' => ?_
    exact .seq (queued.2.finish_willing ending) fun _ _ => .pure _
  | subscribe channels => exact Connection.changeSubscription_refuses _
  | psubscribe patterns => exact Connection.changeSubscription_refuses _
  | unsubscribe channels => exact Connection.changeSubscription_refuses _
  | punsubscribe patterns => exact Connection.changeSubscription_refuses _
  | nextPush => exact Connection.nextPush_refuses
  | listen stop => exact (Connection.listen_willing stop).at_once
  | close => exact Connection.close_willing.at_once
  | _ => trivial

theorem Deed.act_refuses (d : Deed) (c : Connection) : d.act.RefusesAtOnce c := by
  cases d with
  | operate o => exact .seq (o.act_refuses c) fun _ _ => .pure ()
  | multi => exact .seq Connection.multi_refuses fun _ _ => .pure ()
  | exec t => exact (Act.Willing.seq (Connection.execute_willing _) fun _ _ => .pure ()).at_once
  | discard t => exact (Connection.discard_willing _).at_once
  | abandon => trivial

end RespLink
