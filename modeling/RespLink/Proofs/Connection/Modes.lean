import RespLink.Proofs.Connection.Requests

/-!
# Modes — which of them a connection can be in at a time

A connection keeps books on a pipeline, on a transaction and on push mode, and on whether its stream
is up. Four modules change these books, each looks at some of the others first, and any of them may
be cut short by a failure in the middle of what it does. `Connection.Modes` says how the books fit
together in spite of that: in push mode there is neither a pipeline nor a transaction, replies are
owed in a pipeline only, the number of subscriptions is never negative and is zero outside push
mode, and a stream that is down has left a taint.

Writing and reading touch none of the books but the last (`lasting_books`), so between the guard of
an act and the change that it makes what the guard saw still holds.
-/

namespace RespLink

namespace Subscription

/-- The number of subscriptions is one, and it is zero outside push mode. -/
structure Counted (s : Subscription) : Prop where
  nonneg : 0 ≤ s.count
  active : 0 < s.count → s.active = true

variable {s : Subscription}

theorem Counted.take (h : s.Counted) (push : Push) : (s.take push).2.Counted := by
  cases push with
  | acknowledgement kind name count => exact ⟨Int.le_max_right _ _, fun hpos => decide_eq_true hpos⟩
  | message m => exact h
  | pong => exact h

theorem Counted.apply (h : s.Counted) (r : Reply) : (s.apply r).2.Counted := by
  cases hpush : Push.ofReply r with
  | ok push =>
    rw [apply_of_ok hpush]
    exact h.take push
  | error e =>
    rw [apply_of_error hpush]
    exact h

end Subscription

namespace Connection

open Act

/-- How the books of a connection fit together. -/
structure Modes (c : Connection) : Prop where
  apart : c.subscription.active = true → c.pipeline.active = false ∧ c.inTransaction = false
  idle : c.pipeline.active = false → c.pipeline.outstanding = 0
  counted : c.subscription.Counted
  down : c.connected = false → c.taint ≠ none

variable {c : Connection}

theorem Modes.isConnected_iff (h : c.Modes) : c.isConnected = true ↔ c.taint = none := by
  unfold isConnected
  cases htaint : c.taint with
  | none =>
    cases hup : c.connected with
    | true => simp
    | false => exact absurd htaint (h.down hup)
  | some reason => simp

theorem Modes.tainted (h : c.Modes) (e : Error) : (c.tainted e).Modes := by
  unfold Connection.tainted
  split
  · exact ⟨h.apart, h.idle, h.counted, fun _ => Option.some_ne_none _⟩
  · exact h

/-- What the books say lasts while the connection writes and reads. -/
theorem lasting_books (Q : Bool → Pipeline → Subscription → Prop) :
    Lasting fun c => c.Modes ∧ Q c.inTransaction c.pipeline c.subscription where
  wire _ _ _ h := ⟨⟨h.1.apart, h.1.idle, h.1.counted, h.1.down⟩, h.2⟩
  tainted {c} e h := by
    refine ⟨h.1.tainted e, ?_⟩
    unfold Connection.tainted
    split
    · exact h.2
    · exact h.2

theorem lasting_modes : Lasting Modes where
  wire _ _ _ h := ⟨h.apart, h.idle, h.counted, h.down⟩
  tainted e h := h.tainted e

/-! ## Calls and transactions -/

/-- A transaction begins outside push mode only, for calls are refused there. -/
theorem beginTransaction_leaves_modes (h : c.Modes) (hquiet : c.subscription.active = false)
    (command : Command) : (beginTransaction command).Leaves c Modes := by
  have hlasts := lasting_books fun _ _ s => s.active = false
  refine .get (.guard h fun _ => ?_)
  refine .bind (transmit_leaves hlasts ⟨h, hquiet⟩ command) (fun _ h₁ => h₁.1) fun _ _ h₁ => ?_
  refine .bind (readReply_leaves hlasts h₁) (fun _ h₂ => h₂.1) fun r c₂ ⟨h₂, hquiet₂⟩ => ?_
  split
  · exact .pure h₂
  · have hopened : Modes { c₂ with inTransaction := true } :=
      ⟨fun hactive => absurd hactive (by simp [hquiet₂]), h₂.idle, h₂.counted, h₂.down⟩
    exact .seq (.update hopened) fun _ _ => .pure

theorem endTransaction_leaves_modes (h : c.Modes) (command : Command) :
    (endTransaction command).Leaves c Modes := by
  refine .seq (transmit_leaves lasting_modes h command) fun _ c₁ h₁ => ?_
  have hended : Modes { c₁ with inTransaction := false } :=
    ⟨fun hactive => ⟨(h₁.apart hactive).1, rfl⟩, h₁.idle, h₁.counted, h₁.down⟩
  exact .seq (.update hended) fun _ _ => readReply_leaves lasting_modes

theorem execute_leaves_modes (h : c.Modes) (command : Command) :
    (execute command).Leaves c Modes := by
  refine .seq (endTransaction_leaves_modes h command) fun r c' h' => ?_
  split
  · exact .pure h'
  · exact .pure h'
  · exact .raise h'
  · exact .raise h'

theorem discard_leaves_modes (h : c.Modes) (command : Command) :
    (discard command).Leaves c Modes :=
  .seq (endTransaction_leaves_modes h command) fun r _ h' => project_leaves h' .unit r

theorem callReply_leaves_modes (h : c.Modes) (hquiet : c.subscription.active = false)
    (command : Command) : (callReply command).Leaves c Modes := by
  apply Leaves.get
  dsimp only
  split
  · exact beginTransaction_leaves_modes h hquiet command
  split
  · exact .seq (execute_leaves_modes h command) fun _ _ => .pure
  split
  · exact .seq (discard_leaves_modes h command) fun _ _ => .pure
  split
  · exact .raise h
  · exact .seq (transmit_leaves lasting_modes h command) fun _ _ => readReply_leaves lasting_modes

theorem call_leaves_modes (h : c.Modes) (q : Request) : (call q).Leaves c Modes := by
  refine .usable h (.get (.guard h fun hquiet => .guard h fun _ => .guard h fun _ => ?_))
  exact .seq (callReply_leaves_modes h (by simpa using hquiet) q.command) fun r _ h' =>
    project_leaves h' q.answer r

theorem multi_leaves_modes (h : c.Modes) : multi.Leaves c Modes :=
  .seq (call_leaves_modes h Catalog.multi) fun _ _ => .pure

theorem queue_leaves_modes (h : c.Modes) (command : Command) :
    (queue command).Leaves c Modes := by
  refine .usable h (.get (.guard h fun _ => .guard h fun _ => ?_))
  refine .seq (transmit_leaves lasting_modes h command) fun _ _ h₁ => ?_
  refine .seq (readReply_leaves lasting_modes h₁) fun r _ h₂ => ?_
  split
  · exact .seq (.update ⟨h₂.apart, h₂.idle, h₂.counted, h₂.down⟩) fun _ _ => .pure
  · exact .raise h₂
  · exact .fail (h₂.tainted _)

/-! ## Pipelines -/

theorem startPipeline_leaves_modes (h : c.Modes) : startPipeline.Leaves c Modes := by
  refine .usable h (.get (.guard h fun _ => .guard h fun hquiet => .set ?_))
  exact ⟨fun hactive => absurd hactive hquiet, fun _ => rfl, h.counted, h.down⟩

theorem write_leaves_modes (h : c.Modes) (command : Command) :
    (write command).Leaves c Modes := by
  refine .usable h (.get (.guard h fun hactive => .guard h fun _ => ?_))
  have hlasts := lasting_books fun _ p _ => p.active = true
  refine .bind (feed_leaves hlasts ⟨h, by simpa using hactive⟩ command) (fun _ h₁ => h₁.1)
    fun _ c₁ ⟨h₁, hactive₁⟩ => .update ?_
  exact ⟨h₁.apart, fun hidle => absurd hactive₁ (by simpa using hidle), h₁.counted, h₁.down⟩

theorem finishPipeline_leaves_modes (h : c.Modes) : finishPipeline.Leaves c Modes := by
  refine .usable h (.get (.guard h fun _ => ?_))
  have hfinished : Modes { c with pipeline := Pipeline.none } :=
    ⟨fun hactive => ⟨rfl, (h.apart hactive).2⟩, fun _ => rfl, h.counted, h.down⟩
  exact .seq (.set hfinished) fun _ _ h₁ => .seq (flush_leaves lasting_modes h₁) fun _ _ => .pure

theorem collect_leaves_modes (h : c.Modes) (count : Nat) (done : List Reply) :
    (collect count done).Leaves c Modes := by
  induction count generalizing c done with
  | zero => exact .pure h
  | succ count ih =>
    exact .seq (readReply_leaves lasting_modes h) fun r _ h' => ih h' (r :: done)

theorem endPipeline_leaves_modes (h : c.Modes) : endPipeline.Leaves c Modes :=
  .seq (finishPipeline_leaves_modes h) fun count _ h' => collect_leaves_modes h' count []

theorem endPipelineIgnored_leaves_modes (h : c.Modes) : endPipelineIgnored.Leaves c Modes := by
  refine .seq (finishPipeline_leaves_modes h) fun count _ h' => ?_
  exact .seq (collect_leaves_modes h' count []) fun _ _ => .pure

/-! ## Push mode -/

theorem changeSubscription_leaves_modes (h : c.Modes) (command : Command) :
    (changeSubscription command).Leaves c Modes := by
  refine .usable h (.get (.guard h fun hfree => ?_))
  have hlasts := lasting_books fun inside p _ => p.active = false ∧ inside = false
  have hfree : c.pipeline.active = false ∧ c.inTransaction = false := by simpa using hfree
  refine .bind (transmit_leaves hlasts ⟨h, hfree⟩ command) (fun _ h₁ => h₁.1)
    fun _ c₁ ⟨h₁, hfree₁⟩ => .update ?_
  exact ⟨fun _ => hfree₁, h₁.idle, ⟨h₁.counted.nonneg, fun _ => rfl⟩, h₁.down⟩

/-- A frame is applied in push mode only, where the other modes are off. -/
theorem applyPush_leaves_modes (h : c.Modes) (hactive : c.subscription.active = true)
    (r : Reply) : (applyPush r).Leaves c Modes := by
  have hcounted := h.counted.apply r
  apply Leaves.get
  generalize c.subscription.apply r = applied at hcounted
  obtain ⟨outcome, subscription⟩ := applied
  have happlied : Modes { c with subscription } :=
    ⟨fun _ => h.apart hactive, h.idle, hcounted, h.down⟩
  refine .seq (.set happlied) fun _ _ h' => ?_
  cases outcome with
  | ok event => exact .pure h'
  | error e => exact .raise h'

theorem nextPushWithin_leaves_modes (h : c.Modes) (fuel : Nat) :
    (nextPushWithin fuel).Leaves c Modes := by
  induction fuel generalizing c with
  | zero => exact .halt h
  | succ fuel ih =>
    refine .usable h (.get (.guard h fun hactive => ?_))
    have hlasts := lasting_books fun _ _ s => s.active = true
    refine .bind (readReply_leaves hlasts ⟨h, by simpa using hactive⟩) (fun _ h₁ => h₁.1)
      fun r _ ⟨h₁, hactive₁⟩ => ?_
    refine .seq (applyPush_leaves_modes h₁ hactive₁ r) fun event _ h₂ => ?_
    cases event with
    | some event => exact .pure h₂
    | none => exact ih h₂

theorem observe_leaves_modes (h : c.Modes) (e : Event) : (observe e).Leaves c Modes := by
  have hnotify (stop : Bool) (c' : Connection) (h' : c'.Modes) :
      (do notify e; return stop : Act Bool).Leaves c' Modes :=
    .seq (.update ⟨h'.apart, h'.idle, h'.counted, h'.down⟩) fun _ _ => .pure
  cases e with
  | received m =>
    have hdispatch : (dispatch m).Leaves c Modes :=
      .get (.seq (.update ⟨h.apart, h.idle, h.counted, h.down⟩) fun _ _ => .pure)
    exact .seq hdispatch hnotify
  | changed change => exact hnotify false c h
  | queued status => exact hnotify false c h

theorem listenWithin_leaves_modes (h : c.Modes) (stop : Stop) (fuel : Nat) (asked : Bool) :
    (listenWithin stop fuel asked).Leaves c Modes := by
  induction fuel generalizing c asked with
  | zero => exact .halt h
  | succ fuel ih =>
    apply Leaves.get
    split
    · exact .pure h
    rename_i hactive
    refine .usable h ?_
    split
    · exact .pure h
    have hlasts := lasting_books fun _ _ s => s.active = true
    refine .bind (nextFrame_leaves hlasts ⟨h, by simpa using hactive⟩) (fun _ h₁ => h₁.1)
      fun out c₁ ⟨h₁, hactive₁⟩ => ?_
    split
    · rename_i r
      refine .seq (applyPush_leaves_modes h₁ hactive₁ r) fun event _ h₂ => ?_
      cases event with
      | some event => exact .seq (observe_leaves_modes h₂ event) fun asked _ h₃ => ih h₃ asked
      | none => exact ih h₂ false
    · refine .get ?_
      split
      · split
        · exact .pure h₁
        · exact .halt h₁
      · exact .fail (h₁.tainted _)
    · exact .fail (h₁.tainted _)

/-! ## Whatever is done -/

theorem close_leaves_modes (h : c.Modes) : close.Leaves c Modes := by
  apply Leaves.get
  split
  · refine .seq (.set ⟨h.apart, h.idle, h.counted, fun _ => Option.some_ne_none _⟩)
      fun _ c₁ h₁ => ?_
    apply Leaves.get
    split
    · exact .set ⟨h₁.apart, h₁.idle, h₁.counted, h₁.down⟩
    · exact .raise h₁
  · exact .pure h

theorem transaction_leaves_modes (h : c.Modes) (commands : List Command)
    (ending : Transaction.Ending) :
    (Operation.transaction commands ending).act.Leaves c Modes := by
  have hqueueAll (t : Transaction) : (t.queueAll commands).Keeps Modes :=
    Transaction.queueAll_keeps (fun command _ _ h' => queue_leaves_modes h' command) t
  have hfinish := Transaction.finish_keeps (I := Modes) (fun _ _ h' => execute_leaves_modes h' _)
    (fun _ _ h' => discard_leaves_modes h' _)
  refine .seq (multi_leaves_modes h) fun t _ h₁ => .seq (hqueueAll t _ h₁) fun queued _ h₂ => ?_
  exact .seq (hfinish queued.2 ending _ h₂) fun _ _ => .pure

theorem operation_leaves_modes (h : c.Modes) (o : Operation) : o.act.Leaves c Modes := by
  cases o with
  | call q => exact call_leaves_modes h q
  | read s =>
    exact .usable h (.seq (readReply_leaves lasting_modes h) fun r _ h' => project_leaves h' s r)
  | startPipeline => exact startPipeline_leaves_modes h
  | write command => exact write_leaves_modes h command
  | endPipeline => exact endPipeline_leaves_modes h
  | endPipelineIgnored => exact endPipelineIgnored_leaves_modes h
  | queue command => exact queue_leaves_modes h command
  | transaction commands ending => exact transaction_leaves_modes h commands ending
  | subscribe channels => exact changeSubscription_leaves_modes h _
  | psubscribe patterns => exact changeSubscription_leaves_modes h _
  | unsubscribe channels => exact changeSubscription_leaves_modes h _
  | punsubscribe patterns => exact changeSubscription_leaves_modes h _
  | nextPush => exact .get (nextPushWithin_leaves_modes h _)
  | listen stop => exact .get (listenWithin_leaves_modes h stop _ _)
  | onMessage name handler =>
    exact .update ⟨h.apart, h.idle, ⟨h.counted.nonneg, h.counted.active⟩, h.down⟩
  | removeHandler name =>
    have hremoved : (c.removeHandler name).Modes :=
      ⟨h.apart, h.idle, ⟨h.counted.nonneg, h.counted.active⟩, h.down⟩
    exact .get (.seq (.set hremoved) fun _ _ => .pure)
  | watch => exact .update ⟨h.apart, h.idle, h.counted, h.down⟩
  | close => exact close_leaves_modes h

theorem deed_leaves_modes (h : c.Modes) (d : Deed) : d.act.Leaves c Modes := by
  cases d with
  | operate o => exact .seq (operation_leaves_modes h o) fun _ _ => .pure
  | multi => exact .seq (multi_leaves_modes h) fun _ _ => .pure
  | exec t => exact .seq (execute_leaves_modes h _) fun _ _ => .pure
  | discard t => exact discard_leaves_modes h _
  | abandon => exact h

theorem Modes.undergo (h : c.Modes) (x : Happening) : (c.undergo x).Modes := by
  cases x with
  | deed d => exact deed_leaves_modes h d
  | peer p => exact ⟨h.apart, h.idle, h.counted, h.down⟩

theorem Modes.live (h : c.Modes) (happenings : List Happening) : (c.live happenings).Modes := by
  induction happenings generalizing c with
  | nil => exact h
  | cons x happenings ih => exact ih (h.undergo x)

theorem modes_ofStream (stream : Stream) (settings : Settings) :
    (ofStream stream settings).Modes where
  apart h := by cases h
  idle _ := rfl
  counted := ⟨Int.le_refl 0, fun h => absurd h (Int.lt_irrefl 0)⟩
  down h := by cases h

/-- A connection as whoever opened it gets it. -/
inductive Opened : Connection → Prop
  | direct (stream : Stream) (settings : Settings) : Opened (ofStream stream settings)
  | dialed {settings : Settings} {network : Network} {c : Connection}
    (h : connect settings network = .opened c) : Opened c

/-- Sending the password is a call like any other. -/
theorem Opened.modes (h : Opened c) : c.Modes := by
  cases h with
  | direct stream settings => exact modes_ofStream stream settings
  | @dialed settings network _ h =>
    unfold connect at h
    split at h
    · cases h
    · rename_i stream hdial
      have hauthenticate : authenticate.Leaves (ofStream stream settings) Modes := by
        have hstart := modes_ofStream stream settings
        refine .get ?_
        split
        · exact .seq (call_leaves_modes hstart _) fun _ _ => .pure
        · exact .pure hstart
      split at h
      · rename_i hrun
        cases h
        exact hauthenticate.ok_of_run hrun
      · cases h

/-- Whatever is done with a connection or with a transaction on it, whatever the peer does
    meanwhile, and however each of these ends: in push mode it is neither in a pipeline nor in a
    transaction, replies are owed in a pipeline only, the number of subscriptions is not negative
    and is positive in push mode only, and a connection that is down is tainted. So a connection
    counts as connected if and only if it is not tainted. -/
theorem modes_of_live (h : Opened c) (happenings : List Happening) :
    (c.live happenings).Modes ∧
      ((c.live happenings).isConnected = true ↔ (c.live happenings).taint = none) :=
  have hmodes := h.modes.live happenings
  ⟨hmodes, hmodes.isConnected_iff⟩

/-- A connection that is asked for a pipeline in push mode, before bytes come that are no frame. -/
def disturbed : Connection :=
  let joined := Reply.array [.bulk (Text.toBytes "subscribe"), .bulk [120], .integer 1]
  (ofStream (Stream.greeting (joined.frame ++ [38, 13, 10])) Settings.default).live
    [.deed (.operate (.subscribe [[120]])), .deed (.operate .nextPush),
      .deed (.operate .startPipeline), .deed (.operate .nextPush)]

theorem modes_of_live_disturbed : disturbed.subscription.active = true ∧
    disturbed.subscription.count = 1 ∧ disturbed.pipeline.active = false ∧
    disturbed.pipeline.outstanding = 0 ∧ disturbed.isConnected = false := by
  have hactive : disturbed.subscription.active = true := by decide +kernel
  have hcount : disturbed.subscription.count = 1 := by decide +kernel
  have htaint : disturbed.taint ≠ none := by decide +kernel
  obtain ⟨hmodes, hconnected⟩ := modes_of_live (.direct _ Settings.default)
    [.deed (.operate (.subscribe [[120]])), .deed (.operate .nextPush),
      .deed (.operate .startPipeline), .deed (.operate .nextPush)]
  have hidle := (hmodes.apart hactive).1
  refine ⟨hactive, hcount, hidle, hmodes.idle hidle, ?_⟩
  exact Bool.eq_false_iff.mpr fun hup => htaint (hconnected.mp hup)

end Connection

end RespLink
