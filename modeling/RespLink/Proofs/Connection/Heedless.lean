import RespLink.Connection.Operation
import RespLink.Proofs.Connection.Leaves
import RespLink.Proofs.Connection.Rounds

/-!
# Heedless acts — nothing depends on who receives the events

An act reports events to a mailbox and never looks into it. So with another mailbox, or with none,
it ends in the same way and leaves the same connection, except that the other mailbox was told of
the same events in the same order. The capacity for mailboxes to come makes no difference at all.

`Act.Reports` says so of one act on one connection and names the events. Nearly everything that a
connection does reports none, which is shown here for one act after the other. What those few acts
report that do is the subject of the next module.
-/

namespace RespLink

/-- The connection with another mailbox, and with another capacity for those to come. -/
def Connection.fitted (c : Connection) (mailbox : Option Mailbox) (capacity : Nat) : Connection :=
  { c with mailbox, settings := { c.settings with eventCapacity := capacity } }

namespace Act

variable {α β : Type}

/-- How an act ends. -/
def outcome (act : Act α) (c : Connection) : Except Halt α :=
  match act c with
  | .ok a _ => .ok a
  | .error halt _ => .error halt

/-- How an act ended, on a connection with another mailbox and capacity. -/
def refit (mailbox : Option Mailbox) (capacity : Nat) :
    EStateM.Result Halt Connection α → EStateM.Result Halt Connection α
  | .ok a c => .ok a (c.fitted mailbox capacity)
  | .error halt c => .error halt (c.fitted mailbox capacity)

/-- From `c` the act reports `es`, whoever receives them, and that is all the difference that a
    receiver makes. -/
def Reports (act : Act α) (c : Connection) (es : List Event) : Prop :=
  ∀ (mailbox : Option Mailbox) (capacity : Nat),
    act (c.fitted mailbox capacity) =
      refit (mailbox.map fun m => es.foldl Mailbox.deliver m) capacity (act c)

variable {act : Act α} {c : Connection}

theorem Reports.outcome_eq {es : List Event} (h : act.Reports c es) (mailbox : Option Mailbox)
    (capacity : Nat) : act.outcome (c.fitted mailbox capacity) = act.outcome c := by
  unfold outcome
  rw [h]
  cases act c <;> rfl

theorem Reports.after_eq {es : List Event} (h : act.Reports c es) (mailbox : Option Mailbox)
    (capacity : Nat) : act.after (c.fitted mailbox capacity) =
      (act.after c).fitted (mailbox.map fun m => es.foldl Mailbox.deliver m) capacity := by
  unfold after
  rw [h]
  cases act c <;> rfl

/-- What was reported to some receiver is reported to any. -/
theorem Reports.fitted {es : List Event} (h : act.Reports c es) (mailbox : Option Mailbox)
    (capacity : Nat) : act.Reports (c.fitted mailbox capacity) es := by
  intro mailbox' capacity'
  show act (c.fitted mailbox' capacity') = _
  rw [h, h]
  cases act c <;> rfl

theorem fail_fitted (e : Error) (c : Connection) (mailbox : Option Mailbox) (capacity : Nat) :
    (Connection.fail e : Act α) (c.fitted mailbox capacity) =
      refit mailbox capacity ((Connection.fail e : Act α) c) := by
  have htainted :
      (c.fitted mailbox capacity).tainted e = (c.tainted e).fitted mailbox capacity := by
    unfold Connection.tainted
    split <;> rfl
  exact congrArg (EStateM.Result.error (Halt.failed e)) htainted

namespace Reports

variable {es more : List Event}

theorem quiet (h : ∀ mailbox capacity,
    act (c.fitted mailbox capacity) = refit mailbox capacity (act c)) : act.Reports c [] :=
  fun mailbox capacity => by cases mailbox <;> exact h _ capacity

theorem pure {a : α} : (Pure.pure a : Act α).Reports c [] := quiet fun _ _ => rfl

theorem halt {h : Halt} : (throw h : Act α).Reports c [] := quiet fun _ _ => rfl

theorem update {f : Connection → Connection}
    (h : ∀ mailbox capacity, f (c.fitted mailbox capacity) = (f c).fitted mailbox capacity) :
    (modify f : Act Unit).Reports c [] :=
  quiet fun mailbox capacity => congrArg (EStateM.Result.ok ()) (h mailbox capacity)

theorem fail {e : Error} : (Connection.fail e : Act α).Reports c [] := quiet (fail_fitted e c)

/-- What a sequence reports is what its parts report, one after the other. -/
theorem onward {next : α → Act β} {a : α} {c' : Connection} (h : act.Reports c es)
    (hrun : act c = .ok a c') (hnext : (next a).Reports c' more) :
    (act >>= next).Reports c (es ++ more) := by
  intro mailbox capacity
  have hfirst := h mailbox capacity
  rw [hrun] at hfirst
  rw [bind_of_ok hrun, bind_of_ok hfirst, hnext, Option.map_map]
  simp only [Function.comp_def, List.foldl_append]

/-- Where its first part comes to no end there is nothing else to report. -/
theorem halted {next : α → Act β} {halt : Halt} {c' : Connection} (h : act.Reports c es)
    (hrun : act c = .error halt c') : (act >>= next).Reports c es := by
  intro mailbox capacity
  have hfirst := h mailbox capacity
  rw [hrun] at hfirst
  rw [bind_of_error hrun, bind_of_error hfirst]
  rfl

/-- What follows an act and reports nothing does not matter. -/
theorem bind {next : α → Act β} (h : act.Reports c es) (hnext : ∀ a c', (next a).Reports c' []) :
    (act >>= next).Reports c es := by
  cases hrun : act c with
  | ok a c' =>
    rw [← List.append_nil es]
    exact h.onward hrun (hnext a c')
  | error halt c' => exact h.halted hrun

/-- An act that looks at what a receiver cannot change. -/
theorem get {next : Connection → Act α}
    (hsame : ∀ mailbox capacity, next (c.fitted mailbox capacity) = next c)
    (h : (next c).Reports c es) : (MonadState.get >>= next).Reports c es := by
  intro mailbox capacity
  show next (c.fitted mailbox capacity) (c.fitted mailbox capacity) = _
  rw [hsame, h]
  rfl

theorem got {next : Connection → Act α}
    (h : ∀ mailbox capacity, next (c.fitted mailbox capacity) (c.fitted mailbox capacity) =
      refit mailbox capacity (next c c)) : (MonadState.get >>= next).Reports c [] :=
  quiet h

/-- An act that changes something else than the mailbox and goes on. -/
theorem getSet {f : Connection → Connection} {next : Connection → Act α}
    (hf : ∀ mailbox capacity, f (c.fitted mailbox capacity) = (f c).fitted mailbox capacity)
    (hsame : ∀ mailbox capacity, next (c.fitted mailbox capacity) = next c)
    (h : (next c).Reports (f c) es) :
    (MonadState.get >>= fun c => MonadStateOf.set (f c) >>= fun _ => next c).Reports c es := by
  intro mailbox capacity
  show next (c.fitted mailbox capacity) (f (c.fitted mailbox capacity)) = _
  rw [hf, hsame, h]
  rfl

/-- An act that asks for something that a receiver cannot change. -/
theorem getIf {p : Connection → Prop} [DecidablePred p] {yes no : Connection → Act α}
    (hp : ∀ mailbox capacity, p (c.fitted mailbox capacity) ↔ p c)
    (hyes : p c → (MonadState.get >>= yes).Reports c es)
    (hno : ¬ p c → (MonadState.get >>= no).Reports c es) :
    (MonadState.get >>= fun c => if p c then yes c else no c).Reports c es := by
  have hbranch (d : Connection) :
      (MonadState.get >>= fun c => if p c then yes c else no c : Act α) d =
        if p d then (MonadState.get >>= yes) d else (MonadState.get >>= no) d := by
    show (if p d then yes d else no d) d = _
    split <;> rfl
  intro mailbox capacity
  by_cases hc : p c
  · rw [hbranch, hbranch, if_pos hc, if_pos ((hp _ _).mpr hc), hyes hc]
  · rw [hbranch, hbranch, if_neg hc, if_neg (mt (hp _ _).mp hc), hno hc]

/-- An act that is refused for something that a receiver cannot change. -/
theorem guard {p : Connection → Prop} [DecidablePred p] {r : Connection → Refusal}
    {next : Unit → Connection → Act α}
    (hp : ∀ mailbox capacity, p (c.fitted mailbox capacity) ↔ p c)
    (hr : ∀ mailbox capacity, r (c.fitted mailbox capacity) = r c)
    (h : ¬ p c → (MonadState.get >>= next ()).Reports c []) :
    (MonadState.get >>= fun c => if p c then Connection.refuse (r c) >>= fun x => next x c
      else next () c).Reports c [] := by
  refine getIf hp (fun _ => quiet fun mailbox capacity => ?_) h
  show EStateM.Result.error (Halt.failed (.usage (r (c.fitted mailbox capacity)))) _ = _
  rw [hr]
  rfl

end Reports

end Act

namespace Connection

open Act

variable {c : Connection}

theorem ensureUsable_quiet : ensureUsable.Reports c [] := by
  refine .get (fun _ _ => rfl) ?_
  split
  · exact .quiet fun _ _ => rfl
  · exact .pure

theorem flush_quiet : flush.Reports c [] := by
  refine .getIf (fun _ _ => Iff.rfl) (fun _ => .got fun _ _ => rfl) fun _ => .got ?_
  intro mailbox capacity
  dsimp only [fitted]
  cases c.stream.send c.outgoing with
  | ok stream => rfl
  | error fault => exact fail_fitted _ c _ _

theorem feed_quiet (command : Command) : (feed command).Reports c [] := by
  have hadd (c' : Connection) : (modify fun c : Connection =>
      { c with outgoing := c.outgoing ++ command.encode } : Act Unit).Reports c' [] :=
    .update fun _ _ => rfl
  refine .getIf (fun _ _ => Iff.rfl) (fun _ => ?_) fun _ => .get (fun _ _ => rfl) (hadd c)
  exact .get (fun _ _ => rfl) (.bind flush_quiet fun _ => hadd)

theorem transmit_quiet (command : Command) : (transmit command).Reports c [] :=
  .bind (feed_quiet command) fun _ _ => flush_quiet

theorem nextFrame_quiet : nextFrame.Reports c [] := by
  refine .getSet (fun _ _ => rfl) (fun _ _ => rfl) ?_
  split
  · exact .pure
  · exact .pure
  · exact .pure
  · split
    · exact .pure
    · exact .halt

theorem readReply_quiet : readReply.Reports c [] := by
  refine .bind nextFrame_quiet fun out _ => ?_
  cases out with
  | ok r => exact .pure
  | error e => exact .fail

theorem project_quiet (s : Shape) (r : Reply) : (project s r).Reports c [] := by
  unfold project
  split
  · exact .pure
  · exact .halt

theorem close_quiet : close.Reports c [] := by
  refine .getIf (fun _ _ => Iff.rfl) (fun _ => ?_) fun _ => .got fun _ _ => rfl
  refine .getSet (fun _ _ => rfl) (fun _ _ => rfl) (.got fun mailbox capacity => ?_)
  dsimp only [fitted]
  generalize (if c.outgoing.isEmpty then .ok c.stream else c.stream.send c.outgoing :
    Except StreamFault Stream) = sent
  cases sent with
  | ok stream => rfl
  | error fault => rfl

/-! ## Calls and transactions -/

theorem beginTransaction_quiet (command : Command) :
    (beginTransaction command).Reports c [] := by
  refine .guard (fun _ _ => Iff.rfl) (fun _ _ => rfl) fun _ => .get (fun _ _ => rfl) ?_
  refine .bind (transmit_quiet command) fun _ _ => .bind readReply_quiet fun r _ => ?_
  split
  · exact .pure
  · exact .bind (.update fun _ _ => rfl) fun _ _ => .pure

theorem endTransaction_quiet (command : Command) : (endTransaction command).Reports c [] := by
  refine .bind (transmit_quiet command) fun _ _ => .bind (.update fun _ _ => rfl) ?_
  exact fun _ _ => readReply_quiet

theorem execute_quiet (command : Command) : (execute command).Reports c [] := by
  refine .bind (endTransaction_quiet command) fun r _ => ?_
  split
  · exact .pure
  · exact .pure
  · exact .halt
  · exact .halt

theorem discard_quiet (command : Command) : (discard command).Reports c [] :=
  .bind (endTransaction_quiet command) fun r _ => project_quiet .unit r

theorem callReply_quiet (command : Command) : (callReply command).Reports c [] := by
  refine .get (fun _ _ => rfl) ?_
  dsimp only
  split
  · exact beginTransaction_quiet command
  split
  · exact .bind (execute_quiet command) fun _ _ => .pure
  split
  · exact .bind (discard_quiet command) fun _ _ => .pure
  split
  · exact .halt
  · exact .bind (transmit_quiet command) fun _ _ => readReply_quiet

theorem call_quiet (q : Request) : (call q).Reports c [] := by
  refine .bind ensureUsable_quiet fun _ _ => ?_
  refine .guard (fun _ _ => Iff.rfl) (fun _ _ => rfl) fun _ => ?_
  refine .guard (fun _ _ => Iff.rfl) (fun _ _ => rfl) fun _ => ?_
  refine .guard (fun _ _ => Iff.rfl) (fun _ _ => rfl) fun _ => .get (fun _ _ => rfl) ?_
  exact .bind (callReply_quiet q.command) fun r _ => project_quiet q.answer r

/-! ## Pipelines -/

theorem startPipeline_quiet : startPipeline.Reports c [] := by
  refine .bind ensureUsable_quiet fun _ _ => ?_
  refine .guard (fun _ _ => Iff.rfl) (fun _ _ => rfl) fun _ => ?_
  refine .guard (fun _ _ => Iff.rfl) (fun _ _ => rfl) fun _ => .quiet fun _ _ => rfl

theorem write_quiet (command : Command) : (write command).Reports c [] := by
  refine .bind ensureUsable_quiet fun _ _ => ?_
  refine .guard (fun _ _ => Iff.rfl) (fun _ _ => rfl) fun _ => ?_
  refine .guard (fun _ _ => Iff.rfl) (fun _ _ => rfl) fun _ => .get (fun _ _ => rfl) ?_
  exact .bind (feed_quiet command) fun _ _ => .update fun _ _ => rfl

theorem finishPipeline_quiet : finishPipeline.Reports c [] := by
  refine .bind ensureUsable_quiet fun _ _ => ?_
  refine .guard (fun _ _ => Iff.rfl) (fun _ _ => rfl) fun _ => ?_
  refine .getSet (fun _ _ => rfl) (fun _ _ => rfl) ?_
  exact .bind flush_quiet fun _ _ => .pure

theorem collect_quiet (count : Nat) (done : List Reply) : (collect count done).Reports c [] := by
  induction count generalizing c done with
  | zero => exact .pure
  | succ count ih => exact .bind readReply_quiet fun r _ => ih (r :: done)

theorem endPipeline_quiet : endPipeline.Reports c [] :=
  .bind finishPipeline_quiet fun count _ => collect_quiet count []

theorem endPipelineIgnored_quiet : endPipelineIgnored.Reports c [] :=
  .bind finishPipeline_quiet fun count _ => .bind (collect_quiet count []) fun _ _ => .pure

/-! ## Push mode -/

theorem changeSubscription_quiet (command : Command) :
    (changeSubscription command).Reports c [] := by
  refine .bind ensureUsable_quiet fun _ _ => ?_
  refine .guard (fun _ _ => Iff.rfl) (fun _ _ => rfl) fun _ => .get (fun _ _ => rfl) ?_
  exact .bind (transmit_quiet command) fun _ _ => .update fun _ _ => rfl

theorem applyPush_quiet (r : Reply) : (applyPush r).Reports c [] := by
  refine .getSet (fun _ _ => rfl) (fun _ _ => rfl) ?_
  split
  · exact .pure
  · exact .halt

theorem nextPushWithin_quiet (fuel : Nat) : (nextPushWithin fuel).Reports c [] := by
  induction fuel generalizing c with
  | zero => exact .halt
  | succ fuel ih =>
    refine .bind ensureUsable_quiet fun _ _ => ?_
    refine .guard (fun _ _ => Iff.rfl) (fun _ _ => rfl) fun _ => .get (fun _ _ => rfl) ?_
    refine .bind readReply_quiet fun r _ => .bind (applyPush_quiet r) fun event _ => ?_
    cases event with
    | some event => exact .pure
    | none => exact ih

theorem dispatch_quiet (m : Message) : (dispatch m).Reports c [] := by
  exact .get (fun _ _ => rfl) (.bind (.update fun _ _ => rfl) fun _ _ => .pure)

/-! ## Whatever is done -/

theorem attempt_reports {α : Type} {act : Act α} {es : List Event} (h : act.Reports c es) :
    (attempt act).Reports c es := by
  intro mailbox capacity
  have hact := h mailbox capacity
  unfold attempt EStateM.run
  rw [hact]
  cases act c with
  | ok a c' => rfl
  | error halt c' => cases halt <;> rfl

theorem multi_quiet : multi.Reports c [] := .bind (call_quiet Catalog.multi) fun _ _ => .pure

theorem authenticate_quiet : authenticate.Reports c [] := by
  refine .get (fun _ _ => rfl) ?_
  split
  · exact .bind (call_quiet _) fun _ _ => .pure
  · exact .pure

end Connection

namespace Transaction

open Act Connection

variable {c : Connection}

theorem finish_quiet (t : Transaction) (ending : Ending) : (t.finish ending).Reports c [] := by
  cases ending with
  | exec => exact .bind (attempt_reports (execute_quiet _)) fun _ _ => .pure
  | discard =>
    exact .bind (attempt_reports (.bind (discard_quiet _) fun _ _ => .pure)) fun _ _ => .pure
  | abandon => exact .pure

end Transaction

end RespLink
