import RespLink.Proofs.Connection.Hearing
import RespLink.Proofs.Connection.Heedless
import RespLink.Proofs.Push.Waiting

/-!
# Telling — what is reported is what was read

A connection reports an event where it reads a frame that calls for one, and nowhere else: the
server's word for a command that it queues, and the pushed frames that listening takes. So the
events of an act can be told from outside, without a receiver and without a look at how the act
reports them. The frames that it took are those that stand between what was unread before and what
is unread afterwards (`Act.taken`), and each of them is worth an event or none (`Reply.queued?`,
`Reply.event?`).

`Act.Tells` says that an act reports just these. It holds of queueing and of listening, for one
frame and for as many as there are, and everything else that is done on a connection reports
nothing; both together are `Operation.act_reports`. That a command was queued shows in the events
just as in the answer (`Connection.events_queue`).
-/

namespace RespLink

/-! ## Frames between two positions -/

namespace Reply

/-- The whole frames at the front of some bytes, at most so many. -/
def framesWithin : (fuel : Nat) → Bytes → List Reply
  | 0, _ => []
  | fuel + 1, b =>
    match Reply.read b with
    | .ok (r, rest) => r :: framesWithin fuel rest
    | .error _ => []

/-- The whole frames at the front of some bytes. Each of them holds a byte at least. -/
def frames (b : Bytes) : List Reply := framesWithin b.length b

/-- The frames that were read where these bytes were unread and those others, their end, are left
    of them. -/
def framesBetween (unread left : Bytes) : List Reply :=
  frames (unread.take (unread.length - left.length))

theorem framesWithin_spell {answers : List Answer} {fuel : Nat}
    (h : (spell answers).length ≤ fuel) :
    framesWithin fuel (spell answers) = answers.map Answer.reply := by
  induction answers generalizing fuel with
  | nil =>
    cases fuel with
    | zero => rfl
    | succ fuel => rfl
  | cons a rest ih =>
    have hpos := List.length_pos_iff.mpr a.bytes_ne_nil
    rw [spell_cons, List.length_append] at h
    cases fuel with
    | zero => exact absurd h (by omega)
    | succ fuel =>
      have hread : Reply.read (a.bytes ++ spell rest) = .ok (a.reply, spell rest) :=
        Reply.read_steady.ok_append _ a.whole
      rw [spell_cons, framesWithin, hread]
      exact congrArg (a.reply :: ·) (ih (by omega))

theorem framesBetween_spell (answers : List Answer) (left : Bytes) :
    framesBetween (spell answers ++ left) left = answers.map Answer.reply := by
  rw [framesBetween, List.length_append, Nat.add_sub_cancel_right, List.take_left]
  exact framesWithin_spell (Nat.le_refl _)

/-- The event that a reply is worth which answers a command that was to be queued. -/
def queued? : Reply → Option Event
  | .status word => some (.queued word)
  | _ => none

end Reply

/-! ## Acts that tell what they read -/

namespace Act

variable {α β : Type}

/-- The frames that an act takes off the stream. -/
def taken (act : Act α) (c : Connection) : List Reply :=
  Reply.framesBetween (c.inlet.unread c.stream) ((act.after c).inlet.unread (act.after c).stream)

/-- What has arrived and was not read are these bytes. -/
def Unread (u : Bytes) (c : Connection) : Prop := c.inlet.unread c.stream = u

/-- What the act takes off the stream are these answers. -/
def Takes (act : Act α) (c : Connection) (answers : List Answer) : Prop :=
  act.Leaves c fun c' => c.inlet.unread c.stream = spell answers ++ c'.inlet.unread c'.stream

/-- From `c` the act takes some answers, and it reports the events that they are worth, `told` being
    what each of them is worth. -/
def Tells (act : Act α) (c : Connection) (told : Reply → Option Event) : Prop :=
  ∃ answers, act.Takes c answers ∧ act.Reports c ((answers.map Answer.reply).filterMap told)

variable {act : Act α} {c : Connection} {told : Reply → Option Event}

theorem unread_tainted {u : Bytes} (h : Unread u c) (e : Error) : Unread u (c.tainted e) := by
  unfold Connection.tainted
  split
  · exact h
  · exact h

theorem Takes.taken_eq {answers : List Answer} (h : act.Takes c answers) :
    act.taken c = answers.map Answer.reply := by
  have hunread : c.inlet.unread c.stream = _ := h
  rw [taken, hunread]
  exact Reply.framesBetween_spell _ _

/-- A receiver with room enough would get them all, so there is no doubt which events they are. -/
theorem Reports.unique {es es' : List Event} (h : act.Reports c es) (h' : act.Reports c es') :
    es = es' := by
  have hsame := (h.after_eq (some (.empty (es.length + es'.length))) 0).symm.trans
    (h'.after_eq (some (.empty (es.length + es'.length))) 0)
  have hwaiting := congrArg (fun d : Connection => d.mailbox.map Mailbox.waiting) hsame
  simpa [Connection.fitted, Mailbox.waiting_foldl_empty] using hwaiting

namespace Tells

theorem reports (h : act.Tells c told) : act.Reports c ((act.taken c).filterMap told) := by
  obtain ⟨answers, htakes, hreports⟩ := h
  rw [htakes.taken_eq]
  exact hreports

/-- An act that reads nothing and reports nothing. -/
theorem silent (h : act.Reports c [])
    (hsame : act.Leaves c (Unread (c.inlet.unread c.stream))) : act.Tells c told :=
  ⟨[], hsame.symm, h⟩

theorem pure {a : α} : (Pure.pure a : Act α).Tells c told := silent .pure rfl

theorem halt {h : Halt} : (throw h : Act α).Tells c told := silent .halt rfl

theorem fail {e : Error} : (Connection.fail e : Act α).Tells c told :=
  silent .fail (.fail (unread_tainted rfl e))

theorem bind {next : α → Act β} (h : act.Tells c told)
    (hnext : ∀ a c', act c = .ok a c' → (next a).Tells c' told) : (act >>= next).Tells c told := by
  obtain ⟨answers, htakes, hreports⟩ := h
  cases hrun : act c with
  | ok a c' =>
    obtain ⟨further, hfurther, hmore⟩ := hnext a c' hrun
    refine ⟨answers ++ further, ?_, ?_⟩
    · have hafter : (act >>= next).after c = (next a).after c' := by
        rw [after, bind_of_ok hrun, after]
      have hfirst : c.inlet.unread c.stream = spell answers ++ c'.inlet.unread c'.stream :=
        htakes.ok_of_run hrun
      rw [Takes, Leaves, hafter, hfirst, spell_append, List.append_assoc]
      exact congrArg (spell answers ++ ·) hfurther
    · rw [List.map_append, List.filterMap_append]
      exact hreports.onward hrun hmore
  | error halt c' =>
    exact ⟨answers, .of_error (bind_of_error hrun) (htakes.error_of_run hrun),
      hreports.halted hrun⟩

/-- An act that looks at what a receiver cannot change. -/
theorem get {next : Connection → Act α}
    (hsame : ∀ mailbox capacity, next (c.fitted mailbox capacity) = next c)
    (h : (next c).Tells c told) : (MonadState.get >>= next).Tells c told := by
  obtain ⟨answers, htakes, hreports⟩ := h
  exact ⟨answers, htakes, .get hsame hreports⟩

/-- The act goes on where it was not refused. -/
theorem guard {refused : Prop} [Decidable refused] {r : Refusal} {next : Unit → Act α}
    (h : (next ()).Tells c told) :
    (if refused then Connection.refuse r >>= next else next ()).Tells c told := by
  split
  · exact bind halt fun _ _ hrun => by cases hrun
  · exact h

theorem attempt (h : act.Tells c told) : (Connection.attempt act).Tells c told := by
  obtain ⟨answers, htakes, hreports⟩ := h
  refine ⟨answers, ?_, Connection.attempt_reports hreports⟩
  rw [Takes, Leaves, Connection.after_attempt]
  exact htakes

end Tells

end Act

namespace Connection

open Act

variable {c : Connection} {told : Reply → Option Event} {u : Bytes}

/-! ## Writing and reading -/

theorem fail_unread {α : Type} (e : Error) : (fail e : Act α).Keeps (Unread u) :=
  fun _ h => unread_tainted h e

theorem flush_unread : flush.Keeps (Unread u) := by
  refine .get fun c h => ?_
  split
  · exact .pure ()
  split
  · rename_i stream hsend
    obtain ⟨-, rfl⟩ := Stream.send_ok hsend
    exact .set h
  · exact fail_unread _

theorem feed_unread (command : Command) : (feed command).Keeps (Unread u) := by
  have hadd : (modify fun c => { c with outgoing := c.outgoing ++ command.encode } :
      Act Unit).Keeps (Unread u) := .update fun _ h => h
  refine .get fun c _ => ?_
  dsimp only
  split
  · exact .seq flush_unread fun _ => hadd
  · exact hadd

theorem transmit_tells (command : Command) : (transmit command).Tells c told := by
  have hunread (u : Bytes) : (transmit command).Keeps (Unread u) :=
    .seq (feed_unread command) fun _ => flush_unread
  exact .silent (transmit_quiet command) (hunread _ c rfl)

theorem ensureUsable_tells : ensureUsable.Tells c told :=
  .silent ensureUsable_quiet (ensureUsable_leaves rfl)

/-- The next frame that comes is one answer more, and where none comes nothing is read. -/
theorem nextFrame_ends_unread (c : Connection) :
    nextFrame.Ends c
      (fun out c' => match out with
        | .ok r => ∃ a : Answer, a.reply = r ∧
            c.inlet.unread c.stream = spell [a] ++ c'.inlet.unread c'.stream
        | .error _ => c.inlet.unread c.stream = spell [] ++ c'.inlet.unread c'.stream)
      (fun _ _ => False)
      (fun c' => c.inlet.unread c.stream = spell [] ++ c'.inlet.unread c'.stream) := by
  have hlooked := c.inlet.next_looked c.stream
  unfold nextFrame
  apply Ends.get
  generalize c.inlet.next c.stream = found at hlooked
  obtain ⟨intake, inlet, stream⟩ := found
  refine .bind (.set ?_)
  cases intake with
  | frame r =>
    obtain ⟨used, hunread, hread⟩ := Reply.read_steady.front (hlooked.frame r rfl)
    refine .pure ⟨⟨r, used, hread⟩, rfl, ?_⟩
    rw [hunread, spell_cons, spell_nil, List.append_nil]
  | failure e => exact .pure (hlooked.other (by simp)).symm
  | finished => exact .pure (hlooked.other (by simp)).symm
  | pending =>
    have hsame := (hlooked.other (by simp)).symm
    dsimp only
    split
    · exact .pure hsame
    · exact .wait hsame

/-- What follows a frame reports the event that the frame is worth, and reads nothing itself. -/
theorem tells_frame {β : Type} {next : Except Error Reply → Act β}
    (hframe : ∀ r c', (next (.ok r)).Reports c' (told r).toList)
    (hunread : ∀ r u, (next (.ok r)).Keeps (Unread u))
    (herror : ∀ e c', (next (.error e)).Tells c' told) : (nextFrame >>= next).Tells c told := by
  have hends := nextFrame_ends_unread c
  unfold Ends at hends
  split at hends
  · rename_i out c' hrun
    cases out with
    | ok r =>
      obtain ⟨a, rfl, htakes⟩ := hends
      have hsame := hunread a.reply _ c' rfl
      refine ⟨[a], ?_, ?_⟩
      · have hafter : (nextFrame >>= next).after c = (next (.ok a.reply)).after c' := by
          rw [after, bind_of_ok hrun, after]
        rw [Takes, Leaves, hafter, htakes]
        exact congrArg (spell [a] ++ ·) hsame.symm
      · have hworth : ([a].map Answer.reply).filterMap told = (told a.reply).toList := by
          cases hevent : told a.reply <;> simp [hevent]
        rw [hworth]
        exact nextFrame_quiet.onward hrun (hframe a.reply c')
    | error e =>
      refine .bind ⟨[], .of_ok hrun hends, nextFrame_quiet⟩ fun out c'' hrun' => ?_
      cases hrun.symm.trans hrun'
      exact herror e c'
  · exact hends.elim
  · rename_i c' hrun
    exact ⟨[], .of_error (bind_of_error hrun) hends, nextFrame_quiet.halted hrun⟩

theorem tells_reply {β : Type} {next : Reply → Act β}
    (hreply : ∀ r c', (next r).Reports c' (told r).toList)
    (hunread : ∀ r u, (next r).Keeps (Unread u)) : (readReply >>= next).Tells c told := by
  rw [readReply, bind_assoc]
  exact tells_frame hreply hunread fun e c' => .bind .fail fun _ _ hrun => by cases hrun

/-! ## Queueing -/

theorem notify_reports (e : Event) : (notify e).Reports c [e] := by
  intro mailbox capacity
  cases mailbox <;> rfl

/-- A command that is queued is worth an event, and nothing else that it may be answered with is. -/
theorem queue_tells (command : Command) : (queue command).Tells c Reply.queued? := by
  refine .bind ensureUsable_tells fun _ c' _ => .get (fun _ _ => rfl) (.guard (.guard ?_))
  refine .bind (transmit_tells command) fun _ _ _ => tells_reply (fun r c' => ?_) fun r u => ?_
  · cases r with
    | status word => exact .bind (notify_reports _) fun _ _ => .pure
    | error message => exact .halt
    | _ => exact .fail
  · cases r with
    | status word => exact .seq (.update fun _ h => h) fun _ => .pure word
    | error message => exact .raise _
    | _ => exact fail_unread _

end Connection

namespace Act

variable {β : Type} {act : Act α} {c : Connection}

/-- The act reports that a command was queued if it answers so, with the same word, and nothing
    otherwise. -/
def Announces (act : Act String) (c : Connection) : Prop :=
  act.Reports c ((act.value? c).map Event.queued).toList

namespace Announces

theorem bind {α : Type} {act : Act α} {next : α → Act String} (h : act.Reports c [])
    (hnext : ∀ a c', (next a).Announces c') : (act >>= next).Announces c := by
  cases hrun : act c with
  | ok a c' =>
    have hvalue : (act >>= next).value? c = (next a).value? c' := by
      rw [value?, bind_of_ok hrun, value?]
    rw [Announces, hvalue]
    exact h.onward hrun (hnext a c')
  | error halt c' =>
    have hvalue : (act >>= next).value? c = none := by rw [value?, bind_of_error hrun]
    rw [Announces, hvalue]
    exact h.halted hrun

theorem get {next : Connection → Act String}
    (hsame : ∀ mailbox capacity, next (c.fitted mailbox capacity) = next c)
    (h : (next c).Announces c) : (MonadState.get >>= next).Announces c :=
  Reports.get hsame h

theorem guard {refused : Prop} [Decidable refused] {r : Refusal} {next : Unit → Act String}
    (h : (next ()).Announces c) :
    (if refused then Connection.refuse r >>= next else next ()).Announces c := by
  split
  · exact Reports.halted .halt rfl
  · exact h

end Announces

end Act

namespace Connection

open Act

variable {c : Connection}

/-- Whoever receives events hears of a queued command what its caller hears. -/
theorem queue_announces (command : Command) : (queue command).Announces c := by
  refine .bind ensureUsable_quiet fun _ c' => .get (fun _ _ => rfl) (.guard (.guard ?_))
  refine .bind (transmit_quiet command) fun _ _ => .bind readReply_quiet fun r c' => ?_
  cases r with
  | status word => exact Reports.bind (notify_reports _) fun _ _ => .pure
  | error message => exact Reports.halt
  | _ => exact Reports.fail

/-- So the frame that queueing a command takes is the word that it is answered with, if any. -/
theorem filterMap_taken_queue (command : Command) (c : Connection) :
    ((queue command).taken c).filterMap Reply.queued? =
      (((queue command).value? c).map Event.queued).toList :=
  (queue_tells command).reports.unique (queue_announces command)

end Connection

namespace Transaction

open Act Connection

variable {c : Connection}

theorem queueAll_tells (t : Transaction) (commands : List Command) :
    (t.queueAll commands).Tells c Reply.queued? := by
  induction commands generalizing c t with
  | nil => exact .pure
  | cons command commands ih =>
    have hqueue : (t.queue command).Tells c Reply.queued? :=
      .bind (queue_tells command) fun _ _ _ => .pure
    refine .bind hqueue.attempt fun outcome _ _ => ?_
    cases outcome with
    | ok queued => exact .bind (ih queued.2) fun _ _ _ => .pure
    | error e => exact .bind (ih t) fun _ _ _ => .pure

end Transaction

namespace Connection

open Act

variable {c : Connection}

/-! ## Listening -/

theorem observe_reports (e : Event) : (observe e).Reports c [e] := by
  have hnotify (stop : Bool) (c' : Connection) :
      (do notify e; return stop : Act Bool).Reports c' [e] :=
    .bind (notify_reports e) fun _ _ => .pure
  cases e with
  | received m => exact (dispatch_quiet m).onward rfl (hnotify _ _)
  | changed change => exact hnotify false c
  | queued word => exact hnotify false c

theorem applyPush_of_ok {r : Reply} {push : Push} (h : Push.ofReply r = .ok push) :
    applyPush r c = .ok push.event? { c with subscription := (c.subscription.take push).2 } := by
  have hevent : (c.subscription.take push).1 = push.event? := by
    cases push <;> rfl
  have hget : (MonadState.get : Act Connection) c = .ok c c := rfl
  rw [applyPush, bind_of_ok hget, Subscription.apply_of_ok h, hevent]
  rfl

theorem applyPush_of_error {r : Reply} {e : Error} (h : Push.ofReply r = .error e) :
    applyPush r c = .error (.failed e) c := by
  have hget : (MonadState.get : Act Connection) c = .ok c c := rfl
  rw [applyPush, bind_of_ok hget, Subscription.apply_of_error h]
  rfl

/-- A frame that is heeded is reported as the event that it is worth. -/
theorem heed_reports {α : Type} (r : Reply) {next : Bool → Act α}
    (hnext : ∀ stop c', (next stop).Reports c' []) : (heed r next).Reports c r.event?.toList := by
  have hquiet := applyPush_quiet (c := c) r
  cases hpush : Push.ofReply r with
  | ok push =>
    rw [Reply.event?_of_ok hpush]
    refine hquiet.onward (applyPush_of_ok hpush) ?_
    cases push.event? with
    | some event => exact .bind (observe_reports event) hnext
    | none => exact hnext false _
  | error e =>
    rw [Reply.event?_of_error hpush]
    exact hquiet.halted (applyPush_of_error hpush)

theorem heed_unread {α : Type} {u : Bytes} (r : Reply) {next : Bool → Act α}
    (hnext : ∀ stop, (next stop).Keeps (Unread u)) : (heed r next).Keeps (Unread u) := by
  have hpush : (applyPush r).Keeps (Unread u) := by
    refine .get fun c h => .seq (.set h) fun _ => ?_
    split
    · exact .pure _
    · exact .raise _
  have hnotify (e : Event) (stop : Bool) :
      (do notify e; return stop : Act Bool).Keeps (Unread u) :=
    .seq (.update fun _ h => h) fun _ => .pure stop
  refine .seq hpush fun event => ?_
  cases event with
  | none => exact hnext false
  | some event =>
    refine .seq ?_ hnext
    cases event with
    | received m =>
      have hdispatch : (dispatch m).Keeps (Unread u) :=
        .get fun _ _ => .seq (.update fun _ h => h) fun _ => .pure _
      exact .seq hdispatch (hnotify _)
    | changed change => exact .seq (.pure false) (hnotify _)
    | queued word => exact .seq (.pure false) (hnotify _)

/-- A frame that is taken while listening is reported as the event that it is worth. -/
theorem listenRound_tells (stop : Stop) (asked : Bool) :
    (listenRound stop asked).Tells c Reply.event? := by
  refine .get (fun _ _ => rfl) ?_
  split
  · exact .pure
  refine .bind ensureUsable_tells fun _ c' _ => ?_
  split
  · exact .pure
  refine tells_frame (fun r _ => heed_reports r fun _ _ => .pure)
    (fun r _ => heed_unread r fun stop => .pure (some stop)) fun e c' => ?_
  cases e with
  | timeout span =>
    refine .get (fun _ _ => rfl) ?_
    split
    · split
      · exact .pure
      · exact .halt
    · exact .fail
  | _ => exact .fail

theorem listenWithin_tells (stop : Stop) (fuel : Nat) (asked : Bool) :
    (listenWithin stop fuel asked).Tells c Reply.event? := by
  induction fuel generalizing c asked with
  | zero => exact .halt
  | succ fuel ih =>
    rw [listenWithin_succ]
    refine .bind (listenRound_tells stop asked) fun onward _ _ => ?_
    cases onward with
    | some asked => exact ih asked
    | none => exact .pure

theorem listen_tells (stop : Stop) : (listen stop).Tells c Reply.event? :=
  .get (fun _ _ => rfl) (listenWithin_tells stop _ _)

end Connection

/-! ## Whatever is done -/

namespace Operation

open Act Connection

/-- The events of an operation: what the frames are worth that it takes. A transaction takes others
    besides, when it begins and when it ends. -/
def events : Operation → Connection → List Event
  | .queue command, c => ((Connection.queue command).taken c).filterMap Reply.queued?
  | .transaction commands _, c =>
    match multi c with
    | .ok t c' => ((t.queueAll commands).taken c').filterMap Reply.queued?
    | .error _ _ => []
  | .listen stop, c => ((Connection.listen stop).taken c).filterMap Reply.event?
  | _, _ => []

/-- Queueing a command has one event, with the word that it is answered with, or none. -/
theorem events_queue (command : Command) (c : Connection) :
    (Operation.queue command).events c =
      (((Connection.queue command).value? c).map Event.queued).toList :=
  filterMap_taken_queue command c

theorem transaction_reports (commands : List Command) (ending : Transaction.Ending)
    (c : Connection) : (Operation.transaction commands ending).act.Reports c
      ((Operation.transaction commands ending).events c) := by
  cases hrun : multi c with
  | ok t c' =>
    rw [events, hrun]
    have hqueue := (t.queueAll_tells commands (c := c')).reports
    refine multi_quiet.onward hrun (hqueue.bind fun queued _ => ?_)
    exact .bind (queued.2.finish_quiet ending) fun _ _ => .pure
  | error halt c' =>
    rw [events, hrun]
    exact multi_quiet.halted hrun

/-- Whatever is done on a connection reports its events, and nothing about it depends on who
    receives them. Asking for the events is something else. -/
theorem act_reports {o : Operation} (h : o ≠ .watch) (c : Connection) :
    o.act.Reports c (o.events c) := by
  cases o with
  | call q => exact call_quiet q
  | read s =>
    refine .bind ensureUsable_quiet fun _ _ => .bind readReply_quiet fun r _ => ?_
    exact project_quiet s r
  | startPipeline => exact startPipeline_quiet
  | write command => exact write_quiet command
  | endPipeline => exact endPipeline_quiet
  | endPipelineIgnored => exact endPipelineIgnored_quiet
  | queue command => exact (queue_tells command).reports
  | transaction commands ending => exact transaction_reports commands ending c
  | subscribe channels => exact changeSubscription_quiet _
  | psubscribe patterns => exact changeSubscription_quiet _
  | unsubscribe channels => exact changeSubscription_quiet _
  | punsubscribe patterns => exact changeSubscription_quiet _
  | nextPush => exact .get (fun _ _ => rfl) (nextPushWithin_quiet _)
  | listen stop => exact (listen_tells stop).reports
  | onMessage name handler => exact .update fun _ _ => rfl
  | removeHandler name => exact .got fun _ _ => rfl
  | watch => exact absurd rfl h
  | close => exact close_quiet

end Operation

end RespLink
