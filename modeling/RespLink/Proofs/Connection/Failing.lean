import RespLink.Proofs.Connection.Endings
import RespLink.Proofs.Connection.Refusing
import RespLink.Proofs.Connection.Requests

/-!
# Failing — a connection is tainted by fatal errors and by nothing else

A connection that is not tainted is sound: its stream is up as far as is known, and its inlet is fit
to take the next frame. What is done with it leaves it sound, also while it waits and when it fails
for a reason that concerns one request only. After a fatal error the taint is the wording of that
error, and the stream counts as down just if the error says that it is (`Act.Marks`).

So a caller who looks at the error knows the state of the connection, and the other way round.
Listening is where the two could come apart: it meets a fatal error, a limit on waiting that has
run out, and goes on. It does not end with that error either.

The same pass over everything that a connection does can carry along a property of the inlet and its
stream, if no frame that is taken and nothing that is sent can harm it (`Enduring`).
-/

namespace RespLink

/-- Whether an error says that the stream is of no use any more in either direction. -/
def Error.endsStream : Error → Bool
  | .io _ | .connectionClosed => true
  | _ => false

theorem Error.AboutReply.not_isFatal {e : Error} (h : e.AboutReply) : e.isFatal = false := by
  cases h <;> rfl

namespace Connection

/-- A property of an inlet and its stream that sending cannot harm, nor looking for the next frame
    unless that fails. -/
structure Enduring (E : Inlet → Stream → Prop) : Prop where
  send : ∀ {i : Inlet} {s s' : Stream} {bytes : Bytes}, E i s → s.send bytes = .ok s' → E i s'
  next : ∀ {i : Inlet} {s : Stream}, E i s → (∀ e, (i.next s).1 ≠ .failure e) →
    E (i.next s).2.1 (i.next s).2.2

variable {E : Inlet → Stream → Prop}

/-- Nothing fatal has happened to the connection. -/
structure Sound (E : Inlet → Stream → Prop) (c : Connection) : Prop where
  clean : c.taint = none
  connected : c.connected = true
  wire : E c.inlet c.stream

/-- What is left of a sound connection after an error. -/
def Marked (E : Inlet → Stream → Prop) (e : Error) (c : Connection) : Prop :=
  if e.isFatal then c.taint = some e.message ∧ c.connected = !e.endsStream else Sound E c

theorem marked_tainted {c : Connection} {e : Error} (hup : c.connected = true)
    (h : e.isFatal = false → Sound E c) : Marked E e (c.tainted e) := by
  unfold Marked tainted
  cases hfatal : e.isFatal with
  | true =>
    refine ⟨rfl, ?_⟩
    show (c.connected && _) = _
    rw [hup]
    cases e <;> rfl
  | false => exact h hfatal

theorem marked_of_sound {c : Connection} {e : Error} (hfatal : e.isFatal = false)
    (h : Sound E c) : Marked E e c := by
  rw [Marked, hfatal]
  exact h

end Connection

namespace Act

open Connection

variable {α β : Type}

/-- From `c` the act leaves a sound connection, unless it ends with a fatal error: then that error
    is the taint. -/
def Marks (act : Act α) (E : Inlet → Stream → Prop) (c : Connection) : Prop :=
  act.Ends c (fun _ => Sound E) (Marked E) (Sound E)

namespace Marks

variable {act : Act α} {E : Inlet → Stream → Prop} {c : Connection}

theorem pure {a : α} (h : Sound E c) : (Pure.pure a : Act α).Marks E c := h

theorem raise {e : Error} (hfatal : e.isFatal = false) (h : Sound E c) :
    (Connection.raise e : Act α).Marks E c := Ends.raise (marked_of_sound hfatal h)

theorem fail {e : Error} (hup : c.connected = true) (h : e.isFatal = false → Sound E c) :
    (Connection.fail e : Act α).Marks E c := Ends.fail (marked_tainted hup h)

theorem wait (h : Sound E c) : (throw .waiting : Act α).Marks E c := h

theorem get {next : Connection → Act β} (h : (next c).Marks E c) :
    (MonadState.get >>= next).Marks E c := h

theorem set {c' : Connection} (h : Sound E c') : (MonadStateOf.set c' : Act Unit).Marks E c := h

theorem update {f : Connection → Connection} (h : Sound E (f c)) :
    (modify f : Act Unit).Marks E c := h

theorem seq {next : α → Act β} (h : act.Marks E c)
    (hnext : ∀ a c', Sound E c' → (next a).Marks E c') : (act >>= next).Marks E c :=
  Ends.seq h hnext

/-- Turning a request down is no fatal error. -/
theorem guard {refused : Prop} [Decidable refused] {r : Refusal} {next : Unit → Act α}
    (h : Sound E c) (hnext : (next ()).Marks E c) :
    (if refused then Connection.refuse r >>= next else next ()).Marks E c :=
  Ends.guard (fun _ => marked_of_sound rfl h) fun _ => hnext

theorem usable {next : Unit → Act α} (h : Sound E c) (hnext : (next ()).Marks E c) :
    (Connection.ensureUsable >>= next).Marks E c :=
  Ends.usable h.clean hnext

end Marks

end Act

namespace Connection

open Act

variable {E : Inlet → Stream → Prop} {c : Connection}

/-! ## Writing and reading -/

section

variable (hE : Enduring E)
include hE

theorem flush_marks (h : Sound E c) : flush.Marks E c := by
  apply Marks.get
  split
  · exact .pure h
  split
  · rename_i stream hsend
    exact .set ⟨h.clean, h.connected, hE.send h.wire hsend⟩
  · exact .fail h.connected (by simp [Error.isFatal])

theorem feed_marks (h : Sound E c) (command : Command) : (feed command).Marks E c := by
  have hadd (c' : Connection) (h' : Sound E c') :
      Sound E { c' with outgoing := c'.outgoing ++ command.encode } :=
    ⟨h'.clean, h'.connected, h'.wire⟩
  apply Marks.get
  dsimp only
  split
  · exact .seq (flush_marks hE h) fun _ c' h' => .update (hadd c' h')
  · exact .update (hadd c h)

theorem transmit_marks (h : Sound E c) (command : Command) : (transmit command).Marks E c :=
  .seq (feed_marks hE h command) fun _ _ => flush_marks hE

/-- Where no frame comes the error is fatal, but nothing is recorded yet. A limit on waiting that
    has run out has done no harm. -/
theorem nextFrame_marks (h : Sound E c) :
    nextFrame.Ends c
      (fun out c' => c'.connected = true ∧ (∀ r, out = .ok r → Sound E c') ∧
        ∀ e, out = .error e → e.isFatal ∧ ∀ span, e = .timeout span → Sound E c')
      (fun _ _ => False) (Sound E) := by
  have hfailure := (c.inlet.next_looked c.stream).failure
  have hfatal := (c.inlet.next_looked c.stream).fatal
  have hwire := hE.next h.wire
  unfold nextFrame
  apply Ends.get
  generalize c.inlet.next c.stream = found at hfailure hfatal hwire
  obtain ⟨intake, inlet, stream⟩ := found
  refine .bind (.set ?_)
  have hsound (hquiet : ∀ e, intake ≠ .failure e) : Sound E { c with inlet, stream } :=
    ⟨h.clean, h.connected, hwire hquiet⟩
  cases intake with
  | frame r => exact .pure ⟨h.connected, fun _ _ => hsound (by simp), by simp⟩
  | failure e =>
    refine .pure ⟨h.connected, by simp, fun e' he' => ?_⟩
    cases he'
    refine ⟨hfatal e rfl, ?_⟩
    rintro span rfl
    rcases hfailure _ rfl with ⟨fault, hfault⟩ | hfault <;> cases hfault
  | finished =>
    refine .pure ⟨h.connected, by simp, fun e' he' => ?_⟩
    cases he'
    exact ⟨rfl, by simp⟩
  | pending =>
    dsimp only
    split
    · refine .pure ⟨h.connected, by simp, fun e' he' => ?_⟩
      cases he'
      exact ⟨rfl, fun _ _ => hsound (by simp)⟩
    · exact .wait (hsound (by simp))

theorem readReply_marks (h : Sound E c) : readReply.Marks E c := by
  refine .bind ((nextFrame_marks hE h).mono ?_ (fun _ _ h => h.elim) fun _ h => h)
  rintro (e | r) c' ⟨hup, hok, herror⟩
  · exact Marks.fail hup fun hmild => absurd (herror e rfl).1 (by simp [hmild])
  · exact Marks.pure (hok r rfl)

omit hE in
theorem project_marks (h : Sound E c) (s : Shape) (r : Reply) : (project s r).Marks E c := by
  unfold project
  split
  · exact .pure h
  · rename_i e he
    exact .raise (Shape.aboutReply_of_project he).not_isFatal h

/-! ## Requests -/

theorem beginTransaction_marks (h : Sound E c) (command : Command) :
    (beginTransaction command).Marks E c := by
  refine .get (.guard h (.seq (transmit_marks hE h command) fun _ _ h₁ => ?_))
  refine .seq (readReply_marks hE h₁) fun r c₂ h₂ => ?_
  split
  · exact .pure h₂
  · exact .seq (.update ⟨h₂.clean, h₂.connected, h₂.wire⟩) fun _ _ => .pure

theorem endTransaction_marks (h : Sound E c) (command : Command) :
    (endTransaction command).Marks E c := by
  refine .seq (transmit_marks hE h command) fun _ _ h₁ => ?_
  exact .seq (.update ⟨h₁.clean, h₁.connected, h₁.wire⟩) fun _ _ => readReply_marks hE

theorem execute_marks (h : Sound E c) (command : Command) : (execute command).Marks E c := by
  refine .seq (endTransaction_marks hE h command) fun r c' h' => ?_
  split
  · exact .pure h'
  · exact .pure h'
  · exact .raise rfl h'
  · exact .raise rfl h'

theorem discard_marks (h : Sound E c) (command : Command) : (discard command).Marks E c :=
  .seq (endTransaction_marks hE h command) fun r _ h' => project_marks h' .unit r

theorem callReply_marks (h : Sound E c) (command : Command) : (callReply command).Marks E c := by
  apply Marks.get
  dsimp only
  split
  · exact beginTransaction_marks hE h command
  split
  · exact .seq (execute_marks hE h command) fun _ _ => .pure
  split
  · exact .seq (discard_marks hE h command) fun _ _ => .pure
  split
  · exact .raise rfl h
  · exact .seq (transmit_marks hE h command) fun _ _ => readReply_marks hE

theorem call_marks (h : Sound E c) (q : Request) : (call q).Marks E c := by
  refine .usable h (.get (.guard h (.guard h (.guard h ?_))))
  exact .seq (callReply_marks hE h q.command) fun r _ h' => project_marks h' q.answer r

theorem multi_marks (h : Sound E c) : multi.Marks E c :=
  .seq (call_marks hE h Catalog.multi) fun _ _ => .pure

theorem read_marks (h : Sound E c) (s : Shape) : (read s).Marks E c :=
  .usable h (.seq (readReply_marks hE h) fun r _ h' => project_marks h' s r)

theorem queue_marks (h : Sound E c) (command : Command) : (queue command).Marks E c := by
  refine .usable h (.get (.guard h (.guard h ?_)))
  refine .seq (transmit_marks hE h command) fun _ _ h₁ => ?_
  refine .seq (readReply_marks hE h₁) fun r _ h₂ => ?_
  split
  · exact .seq (.update ⟨h₂.clean, h₂.connected, h₂.wire⟩) fun _ _ => .pure
  · exact .raise rfl h₂
  · exact .fail h₂.connected fun _ => h₂

/-! ## Pipelines -/

omit hE in
theorem startPipeline_marks (h : Sound E c) : startPipeline.Marks E c :=
  .usable h (.get (.guard h (.guard h (.set ⟨h.clean, h.connected, h.wire⟩))))

theorem write_marks (h : Sound E c) (command : Command) : (write command).Marks E c := by
  refine .usable h (.get (.guard h (.guard h ?_)))
  exact .seq (feed_marks hE h command) fun _ _ h' => .update ⟨h'.clean, h'.connected, h'.wire⟩

theorem finishPipeline_marks (h : Sound E c) : finishPipeline.Marks E c := by
  refine .usable h (.get (.guard h ?_))
  refine .seq (.set ⟨h.clean, h.connected, h.wire⟩) fun _ _ h₁ => ?_
  exact .seq (flush_marks hE h₁) fun _ _ => .pure

theorem collect_marks (h : Sound E c) (count : Nat) (done : List Reply) :
    (collect count done).Marks E c := by
  induction count generalizing c done with
  | zero => exact .pure h
  | succ count ih => exact .seq (readReply_marks hE h) fun r _ h' => ih h' (r :: done)

theorem endPipeline_marks (h : Sound E c) : endPipeline.Marks E c :=
  .seq (finishPipeline_marks hE h) fun count _ h' => collect_marks hE h' count []

theorem endPipelineIgnored_marks (h : Sound E c) : endPipelineIgnored.Marks E c := by
  refine .seq (finishPipeline_marks hE h) fun count _ h' => ?_
  exact .seq (collect_marks hE h' count []) fun _ _ => .pure

/-! ## Push mode -/

theorem changeSubscription_marks (h : Sound E c) (command : Command) :
    (changeSubscription command).Marks E c := by
  refine .usable h (.get (.guard h ?_))
  refine .seq (transmit_marks hE h command) fun _ _ h' => ?_
  exact .update ⟨h'.clean, h'.connected, h'.wire⟩

omit hE in
/-- A frame that is no pushed one does no harm. -/
theorem applyPush_ends (h : Sound E c) (r : Reply) :
    (applyPush r).Ends c (fun _ => Sound E) (fun e c' => e.AboutReply ∧ Sound E c') (Sound E) := by
  have habout : ∀ e, (c.subscription.apply r).1 = .error e → e.AboutReply :=
    fun e => Subscription.aboutReply_of_apply
  apply Ends.get
  generalize c.subscription.apply r = applied at habout
  obtain ⟨outcome, subscription⟩ := applied
  have hsound : Sound E { c with subscription } := ⟨h.clean, h.connected, h.wire⟩
  refine .bind (.set ?_)
  cases outcome with
  | ok event => exact .pure hsound
  | error e => exact .raise ⟨habout e rfl, hsound⟩

omit hE in
theorem applyPush_marks (h : Sound E c) (r : Reply) : (applyPush r).Marks E c :=
  (applyPush_ends h r).mono (fun _ _ h' => h')
    (fun _ _ h' => marked_of_sound h'.1.not_isFatal h'.2) fun _ h' => h'

theorem nextPushWithin_marks (h : Sound E c) (fuel : Nat) : (nextPushWithin fuel).Marks E c := by
  induction fuel generalizing c with
  | zero => exact .wait h
  | succ fuel ih =>
    refine .usable h (.get (.guard h ?_))
    refine .seq (readReply_marks hE h) fun r _ h₁ => ?_
    refine .seq (applyPush_marks h₁ r) fun event _ h₂ => ?_
    cases event with
    | some event => exact .pure h₂
    | none => exact ih h₂

omit hE in
/-- Whoever is told of an event cannot fail. -/
theorem observe_ends (h : Sound E c) (e : Event) :
    (observe e).Ends c (fun _ => Sound E) (fun _ _ => False) (Sound E) := by
  have hnotify (stop : Bool) (c' : Connection) (h' : Sound E c') :
      (do notify e; return stop : Act Bool).Ends c' (fun _ => Sound E) (fun _ _ => False)
        (Sound E) :=
    .bind (.update ⟨h'.clean, h'.connected, h'.wire⟩)
  cases e with
  | received m =>
    have hdispatch : (dispatch m).Ends c (fun _ => Sound E) (fun _ _ => False) (Sound E) :=
      .get (.bind (.update ⟨h.clean, h.connected, h.wire⟩))
    exact .seq hdispatch hnotify
  | changed change => exact hnotify false c h
  | queued status => exact hnotify false c h

/-- Listening ends with every error that it meets, but for a limit on waiting that has run out. -/
theorem listenWithin_ends (h : Sound E c) (stop : Stop) (fuel : Nat) (asked : Bool) :
    (listenWithin stop fuel asked).Ends c (fun _ => Sound E)
      (fun e c' => Marked E e c' ∧ ∀ span, e ≠ .timeout span) (Sound E) := by
  induction fuel generalizing c asked with
  | zero => exact .wait h
  | succ fuel ih =>
    apply Ends.get
    split
    · exact .pure h
    refine .usable h.clean ?_
    split
    · exact .pure h
    refine .bind ((nextFrame_marks hE h).mono ?_ (fun _ _ h => h.elim) fun _ h => h)
    rintro (e | r) c₁ ⟨hup, hok, herror⟩
    · have hfail (hother : ∀ span, e ≠ .timeout span) :
          (fail e : Act Unit).Ends c₁ (fun _ => Sound E)
            (fun e c' => Marked E e c' ∧ ∀ span, e ≠ .timeout span) (Sound E) :=
        .fail ⟨marked_tainted hup fun hmild => absurd (herror e rfl).1 (by simp [hmild]), hother⟩
      cases e with
      | timeout span =>
        have hsound := (herror _ rfl).2 span rfl
        apply Ends.get
        rw [if_pos hup]
        split
        · exact .pure hsound
        · exact .wait hsound
      | _ => exact hfail (by simp)
    · refine .bind ((applyPush_ends (hok r rfl) r).mono ?_ ?_ fun _ h => h)
      · intro event c₂ h₂
        cases event with
        | none => exact ih h₂ false
        | some event =>
          refine .bind ((observe_ends h₂ event).mono ?_ (fun _ _ h => h.elim) fun _ h => h)
          exact fun asked c₃ h₃ => ih h₃ asked
      · rintro e c₂ ⟨habout, h₂⟩
        refine ⟨marked_of_sound habout.not_isFatal h₂, ?_⟩
        rintro span rfl
        cases habout

theorem listen_ends (h : Sound E c) (stop : Stop) :
    (listen stop).Ends c (fun _ => Sound E)
      (fun e c' => Marked E e c' ∧ ∀ span, e ≠ .timeout span) (Sound E) :=
  .get (listenWithin_ends hE h stop _ _)

end

end Connection

/-! ## Everything that can be done -/

/-- Whether something is done at one go. To close a connection is to give it up, and a transaction
    from its beginning to its end is several deeds. -/
def Deed.single : Deed → Bool
  | .operate .close | .operate (.transaction _ _) => false
  | _ => true

section

open Connection Act

variable {E : Inlet → Stream → Prop} {c : Connection} (hE : Enduring E)
include hE

theorem Operation.act_marks (h : Sound E c) {o : Operation} (hsingle : (Deed.operate o).single) :
    o.act.Marks E c := by
  cases o with
  | call q => exact call_marks hE h q
  | read s => exact read_marks hE h s
  | startPipeline => exact startPipeline_marks h
  | write command => exact write_marks hE h command
  | endPipeline => exact endPipeline_marks hE h
  | endPipelineIgnored => exact endPipelineIgnored_marks hE h
  | queue command => exact queue_marks hE h command
  | transaction commands ending => cases hsingle
  | subscribe channels => exact changeSubscription_marks hE h _
  | psubscribe patterns => exact changeSubscription_marks hE h _
  | unsubscribe channels => exact changeSubscription_marks hE h _
  | punsubscribe patterns => exact changeSubscription_marks hE h _
  | nextPush => exact .get (nextPushWithin_marks hE h _)
  | listen stop =>
    exact (listen_ends hE h stop).mono (fun _ _ h' => h') (fun _ _ h' => h'.1) fun _ h' => h'
  | onMessage name handler => exact .update ⟨h.clean, h.connected, h.wire⟩
  | removeHandler name =>
    exact .get (.seq (.set ⟨h.clean, h.connected, h.wire⟩) fun _ _ => .pure)
  | watch => exact .update ⟨h.clean, h.connected, h.wire⟩
  | close => cases hsingle

theorem Deed.act_marks (h : Sound E c) {d : Deed} (hsingle : d.single) : d.act.Marks E c := by
  cases d with
  | operate o => exact .seq (o.act_marks hE h hsingle) fun _ _ => .pure
  | multi => exact .seq (multi_marks hE h) fun _ _ => .pure
  | exec t => exact .seq (execute_marks hE h _) fun _ _ => .pure
  | discard t => exact discard_marks hE h _
  | abandon => exact .pure h

end

/-! ## Every reachable connection -/

/-- A connection that is sound unless it is tainted. -/
def Connection.Steady (E : Inlet → Stream → Prop) (c : Connection) : Prop :=
  c.taint = none → c.Sound E

section

open Connection Act

variable {E : Inlet → Stream → Prop} {c : Connection} {α : Type} {act : Act α}

theorem Act.Marks.leaves (h : act.Marks E c) : act.Leaves c (Steady E) := by
  refine Ends.leaves h (fun _ _ h' _ => h') ?_ fun _ h' _ => h'
  intro e c' hmarked hclean
  unfold Marked at hmarked
  split at hmarked
  · exact absurd hmarked.1 (by simp [hclean])
  · exact hmarked

/-- What marks sound connections and leaves tainted ones tainted keeps a connection steady. -/
theorem Act.Keeps.of_marks (hsound : ∀ c, Sound E c → act.Marks E c)
    (htainted : ∀ c : Connection, c.taint ≠ none → act.Leaves c fun c' => c'.taint ≠ none) :
    act.Keeps (Steady E) := by
  intro c h
  by_cases hclean : c.taint = none
  · exact Marks.leaves (hsound c (h hclean))
  · exact fun hafter => absurd hafter (htainted c hclean)

variable (hE : Enduring E)
include hE

theorem Operation.transaction_keeps (commands : List Command) (ending : Transaction.Ending) :
    (Operation.transaction commands ending).act.Keeps (Steady E) := by
  have hmulti : multi.Keeps (Steady E) := by
    refine .of_marks (fun _ h => multi_marks hE h) fun c h => ?_
    obtain ⟨reason, hreason⟩ := Option.ne_none_iff_exists'.mp h
    exact .of_error (multi_of_tainted hreason) h
  have hqueue (command : Command) : (Connection.queue command).Keeps (Steady E) := by
    refine .of_marks (fun _ h => queue_marks hE h command) fun c h => ?_
    obtain ⟨reason, hreason⟩ := Option.ne_none_iff_exists'.mp h
    exact .of_error (bind_of_tainted hreason) h
  have hexec (t : Transaction) : t.exec.Keeps (Steady E) :=
    .of_marks (fun _ h => execute_marks hE h _) fun _ h => execute_leaves_tainted h _
  have hdiscard (t : Transaction) : t.discard.Keeps (Steady E) :=
    .of_marks (fun _ h => discard_marks hE h _) fun _ h => discard_leaves_tainted h _
  refine .seq hmulti fun t => ?_
  refine .seq (Transaction.queueAll_keeps (fun command _ => hqueue command) t) fun queued => ?_
  exact .seq (Transaction.finish_keeps hexec hdiscard queued.2 ending) fun _ => .pure _

theorem Deed.steady_keeps (d : Deed) : d.act.Keeps (Steady E) := by
  by_cases hsingle : d.single
  · exact .of_marks (fun _ h => d.act_marks hE h hsingle) fun _ h => deed_leaves_tainted h d
  · cases d with
    | operate o =>
      cases o with
      | close =>
        refine Act.Keeps.seq (fun c h hclean => absurd hclean (close_leaves_tainted ?_)) fun _ =>
          .pure ()
        exact fun hdown hclean => absurd (h hclean).connected (by simp [hdown])
      | transaction commands ending =>
        exact .seq (Operation.transaction_keeps hE commands ending) fun _ => .pure ()
      | _ => exact absurd rfl hsingle
    | _ => exact absurd rfl hsingle

end

namespace Connection

open Act

variable {c : Connection}

theorem enduring_true : Enduring fun _ _ => True := ⟨fun _ _ => trivial, fun _ _ => trivial⟩

theorem steady_live {happenings : List Happening} (h : c.Steady fun _ _ => True) :
    (c.live happenings).Steady fun _ _ => True := by
  induction happenings generalizing c with
  | nil => exact h
  | cons x happenings ih =>
    refine ih ?_
    cases x with
    | deed d => exact d.steady_keeps enduring_true c h
    | peer p => exact fun hclean => ⟨hclean, (h hclean).connected, trivial⟩

theorem Marked.connected_iff {e : Error} (h : Marked (fun _ _ => True) e c) :
    c.connected = false ↔ e.endsStream := by
  unfold Marked at h
  split at h
  · rw [h.2]
    cases e.endsStream <;> simp
  · rename_i hmild
    rw [h.connected]
    cases e <;> simp_all [Error.endsStream, Error.isFatal]

theorem Marked.taint_eq {e : Error} (h : Marked (fun _ _ => True) e c) :
    c.taint = if e.isFatal then some e.message else none := by
  unfold Marked at h
  split at h
  · rename_i hfatal
    rw [h.1, if_pos hfatal]
  · rename_i hmild
    rw [h.clean, if_neg hmild]

/-- How an act left a connection shows in the error that it ended with, and the other way round. -/
theorem taint_of_marks {α : Type} {act : Act α} (h : act.Marks (fun _ _ => True) c) :
    (act.after c).taint = ((act.error? c).filter Error.isFatal).map Error.message ∧
      ((act.after c).connected = false ↔ ∃ e, act.error? c = some e ∧ e.endsStream) := by
  unfold Marks Ends at h
  unfold Act.after Act.error?
  split at h
  · rename_i a c' hrun
    simp [hrun, h.clean, h.connected]
  · rename_i e c' hrun
    rw [hrun]
    refine ⟨?_, by simpa using h.connected_iff⟩
    rw [h.taint_eq]
    cases hfatal : e.isFatal <;> simp [Option.filter, hfatal]
  · rename_i c' hrun
    simp [hrun, h.clean, h.connected]

theorem Error.endsStream_iff {e : Error} :
    e.endsStream ↔ (∃ fault, e = .io fault) ∨ e = .connectionClosed := by
  cases e <;> simp [Error.endsStream]

/-- Whatever is done with a connection that is not tainted, it is tainted afterwards if and only if
    that ended with a fatal error. Then the taint is the wording of the error, and the connection
    counts as down if and only if the stream failed or was closed. No reply taints it, and neither
    does a limit on waiting that runs out while it listens: listening does not end with that. -/
theorem tainted_iff_fatal (stream : Stream) (settings : Settings) (happenings : List Happening)
    {d : Deed} (hsingle : d.single) (hc : (ofStream stream settings).live happenings = c)
    (hclean : c.taint = none) :
    ((d.act.after c).taint ≠ none ↔ ∃ e, d.act.error? c = some e ∧ e.isFatal) ∧
    (∀ e, d.act.error? c = some e → e.isFatal → (d.act.after c).taint = some e.message) ∧
    ((d.act.after c).connected = false ↔
      ∃ e, d.act.error? c = some e ∧ ((∃ fault, e = .io fault) ∨ e = .connectionClosed)) ∧
    (∀ e, d.act.error? c = some e → e.AboutReply → (d.act.after c).taint = none) ∧
    ∀ stop span, d = .operate (.listen stop) → d.act.error? c ≠ some (.timeout span) := by
  have hstart : (ofStream stream settings).Steady fun _ _ => True :=
    fun _ => ⟨rfl, rfl, trivial⟩
  have hsound : Sound (fun _ _ => True) c := by
    subst hc
    exact steady_live hstart hclean
  obtain ⟨htaint, hdown⟩ := taint_of_marks (d.act_marks enduring_true hsound hsingle)
  refine ⟨?_, ?_, ?_, ?_, ?_⟩
  · rw [htaint]
    cases herror : d.act.error? c <;> simp
  · intro e he hfatal
    rw [htaint, he, Option.filter_some_pos hfatal]
    rfl
  · rw [hdown]
    simp only [Error.endsStream_iff]
  · intro e he habout
    rw [htaint, he, Option.filter_some_neg (by simp [habout.not_isFatal])]
    rfl
  · rintro stop span rfl herror
    obtain ⟨c', hrun⟩ := exists_of_error? herror
    have hlistens : (Deed.operate (.listen stop)).act.Ends c (fun _ => Sound fun _ _ => True)
        (fun e _ => ∀ span, e ≠ .timeout span) fun _ => True :=
      .seq ((listen_ends enduring_true hsound stop).mono (fun _ _ h => h) (fun _ _ h => h.2)
        fun _ _ => trivial) fun _ _ h => .pure h
    exact hlistens.failed_of_run hrun span rfl

/-- A server that answers with an error, then with bytes that are no frame. -/
def mishap : Connection :=
  (ofStream (Stream.greeting [45, 110, 111, 13, 10, 38, 13, 10]) Settings.default).live
    [.deed (.operate (.call (Catalog.get [107])))]

theorem tainted_iff_fatal_mishap : mishap.taint = none ∧
    ((Deed.operate (.call Catalog.ping)).act.after mishap).taint ≠ none := by
  have hclean : mishap.taint = none := by decide +kernel
  have hfatal : (Deed.operate (.call Catalog.ping)).act.error? mishap =
      some (.protocol (.unknownKind 38)) := by
    decide +kernel
  obtain ⟨hiff, -⟩ := tainted_iff_fatal (Stream.greeting [45, 110, 111, 13, 10, 38, 13, 10])
    Settings.default [.deed (.operate (.call (Catalog.get [107])))]
    (d := .operate (.call Catalog.ping)) rfl rfl hclean
  exact ⟨hclean, hiff.mpr ⟨_, hfatal, rfl⟩⟩

end Connection

end RespLink
