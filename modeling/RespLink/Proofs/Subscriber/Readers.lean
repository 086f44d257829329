import RespLink.Proofs.Subscriber.Loop

/-!
# Readers — three ways to take the frames of a subscription

Events can be asked for one by one, a connection can listen for them, and a subscriber takes them in
its loop. The three are written apart and keep their books in different places, but what they work
on is the same: an inlet and its stream, the subscriptions, a mailbox and the calls of handlers
(`Desk`). Where the frames are such that the subscription goes on, each of them takes the next few
in order and does the same with each (`Desk.Took`). Whoever asks for one event leaves the mailbox
and the handlers alone; that is the only difference.
-/

namespace RespLink

/-- Whether a subscription goes on with a frame: a pushed one, unless it says that nothing is
    subscribed any more, and an error reply. -/
def Reply.goesOn (r : Reply) : Bool :=
  match Push.ofReply r with
  | .ok push => push.count? != some 0
  | .error (.server _) => true
  | .error _ => false

theorem Reply.cases_of_goesOn {r : Reply} (h : r.goesOn = true) :
    (∃ push, Push.ofReply r = .ok push ∧ push.count? ≠ some 0) ∨
      ∃ text, Push.ofReply r = .error (.server text) := by
  unfold goesOn at h
  split at h
  · rename_i push hpush
    exact .inl ⟨push, hpush, by simpa using h⟩
  · rename_i text hpush
    exact .inr ⟨text, hpush⟩
  · cases h

/-- The subscription goes on with the answers, and none of them is longer than the limit. -/
def Ongoing (limit : Nat) (answers : List Answer) : Prop :=
  ∀ a ∈ answers, a.reply.goesOn = true ∧ a.bytes.length ≤ limit

instance (limit : Nat) (answers : List Answer) : Decidable (Ongoing limit answers) :=
  inferInstanceAs (Decidable (∀ a ∈ answers, _))

/-- An inlet has answers before it, `later` being their bytes that have not arrived, and the stream
    goes on. -/
structure Inlet.Faces (i : Inlet) (limit : Nat) (later : Bytes) (answers : List Answer)
    (s : Stream) : Prop where
  fit : i.Fit limit s
  goesOn : s.ended = false
  unread : i.unread s ++ later = spell answers

/-- What whoever takes the frames of a subscription works on. -/
structure Desk where
  inlet : Inlet
  stream : Stream
  subscription : Subscription
  mailbox : Option Mailbox
  handled : List Handled

def Connection.desk (c : Connection) : Desk :=
  ⟨c.inlet, c.stream, c.subscription, c.mailbox, c.handled⟩

def Subscriber.desk (s : Subscriber) : Desk :=
  ⟨s.inlet, s.stream, s.subscription, some s.mailbox, s.handled⟩

namespace Desk

/-- After some replies, which were reported to handlers and mailbox or else not. -/
def hear (d : Desk) (reported : Bool) (rs : List Reply) : Desk :=
  { d with
    subscription := rs.foldl (fun s r => (s.apply r).2) d.subscription
    handled := if reported then d.handled ++ rs.flatMap d.subscription.handlers.calls else d.handled
    mailbox :=
      if reported then d.mailbox.map fun m => (rs.filterMap Reply.event?).foldl Mailbox.deliver m
      else d.mailbox }

variable {d d' : Desk} {reported : Bool}

theorem hear_nil (d : Desk) (reported : Bool) : d.hear reported [] = d := by
  cases d with
  | mk _ _ _ mailbox _ => cases reported <;> cases mailbox <;> simp [hear]

theorem hear_cons (d : Desk) (reported : Bool) (r : Reply) (rs : List Reply) :
    d.hear reported (r :: rs) = (d.hear reported [r]).hear reported rs := by
  cases d with
  | mk _ _ subscription mailbox _ =>
    have hhandlers := Connection.handlers_apply subscription r
    cases reported <;> cases hevent : r.event? <;> cases mailbox <;>
      simp [hear, hhandlers, hevent]

/-- The first `m` answers were taken. -/
structure Took (limit : Nat) (later : Bytes) (reported : Bool) (answers : List Answer) (d : Desk)
    (m : Nat) (d' : Desk) : Prop where
  le : m ≤ answers.length
  faces : d'.inlet.Faces limit later (answers.drop m) d'.stream
  same : d' = { d.hear reported ((answers.take m).map Answer.reply) with
    inlet := d'.inlet, stream := d'.stream }

variable {limit : Nat} {later : Bytes} {answers : List Answer}

theorem took_none {inlet : Inlet} {stream : Stream}
    (h : inlet.Faces limit later answers stream) :
    Took limit later reported answers d 0 { d with inlet, stream } := by
  refine ⟨Nat.zero_le _, h, ?_⟩
  rw [List.take_zero, List.map_nil, hear_nil]

theorem Took.cons {a : Answer} {rest : List Answer} {m : Nat} {inlet : Inlet} {stream : Stream}
    (h : Took limit later reported rest ({ d with inlet, stream }.hear reported [a.reply]) m d') :
    Took limit later reported (a :: rest) d (m + 1) d' := by
  refine ⟨Nat.succ_le_succ h.le, h.faces, ?_⟩
  rw [List.take_succ_cons, List.map_cons, hear_cons]
  exact h.same

end Desk

/-! ## A connection -/

namespace Connection

open Act

variable {c : Connection} {limit : Nat} {later : Bytes} {answers : List Answer}

/-- A connection is in push mode and fit to be handed over. -/
structure Attends (c : Connection) : Prop where
  clean : c.taint = none
  connected : c.connected = true
  active : c.subscription.active = true
  free : c.pipeline.active = false ∧ c.inTransaction = false

/-- What comes next is the first answer, or one has to wait for it. -/
theorem nextFrame_takes (h : c.inlet.Faces limit later answers c.stream)
    (hanswers : Ongoing limit answers) :
    nextFrame.Ends c
      (fun out c' => ∃ inlet stream, c' = { c with inlet, stream } ∧
        match out with
        | .ok r => ∃ a rest, answers = a :: rest ∧ a.reply = r ∧
          inlet.Faces limit later rest stream
        | .error e => (∃ span, e = .timeout span) ∧ inlet.Faces limit later answers stream)
      (fun _ _ => False)
      (fun c' => ∃ inlet stream, c' = { c with inlet, stream } ∧
        inlet.Faces limit later answers stream) := by
  have hcomes := h.fit.next_comes h.unread
  have hopen := h.goesOn
  have hunread := h.unread
  unfold nextFrame
  apply Ends.get
  generalize c.inlet.next c.stream = found at hcomes
  refine .bind (.set ?_)
  cases hcomes with
  | frame first fit stays left =>
    exact .pure ⟨_, _, rfl, _, _, first, rfl, fit, stays.trans hopen, left⟩
  | pending goesOn fit stays same short =>
    rw [← same] at hunread
    dsimp only
    split
    · exact .pure ⟨_, _, rfl, ⟨_, rfl⟩, fit, stays.trans hopen, hunread⟩
    · exact .wait ⟨_, _, rfl, fit, stays.trans hopen, hunread⟩
  | finished closed => cases hopen.symm.trans closed
  | cutOff closed => cases hopen.symm.trans closed
  | tooLarge first long same =>
    subst first
    exact absurd long.length (Nat.not_lt.mpr (hanswers _ List.mem_cons_self).2)

theorem active_of_goesOn {s : Subscription} {r : Reply} (hactive : s.active = true)
    (hr : r.goesOn = true) : (s.apply r).2.active = true := by
  rcases Reply.cases_of_goesOn hr with ⟨push, hpush, hcount⟩ | ⟨text, hpush⟩
  · rw [Subscription.apply_of_ok hpush, Subscription.active_take, hactive]
    cases hk : push.count? with
    | none => rfl
    | some k =>
      have hpositive : 0 < k := Nat.pos_of_ne_zero fun hzero => hcount (hzero ▸ hk)
      exact decide_eq_true hpositive
  · rw [Subscription.apply_of_error hpush]
    exact hactive

theorem Attends.after {inlet : Inlet} {stream : Stream} {s : Subscription}
    {mailbox : Option Mailbox} {handled : List Handled} (h : c.Attends)
    (hactive : s.active = true) :
    Attends { c with inlet, stream, subscription := s, mailbox, handled } :=
  ⟨h.clean, h.connected, hactive, h.free⟩

/-- Listening takes the next few answers and reports them. -/
theorem listenWithin_takes (h : c.Attends) (hfaces : c.inlet.Faces limit later answers c.stream)
    (hanswers : Ongoing limit answers) (stop : Stop) (rounds : Nat) (asked : Bool) :
    (listenWithin stop rounds asked).Leaves c fun c' =>
      c'.Attends ∧ ∃ m, c.desk.Took limit later true answers m c'.desk := by
  suffices hends : (listenWithin stop rounds asked).Ends c
      (fun _ c' => c'.Attends ∧ ∃ m, c.desk.Took limit later true answers m c'.desk)
      (fun _ c' => c'.Attends ∧ ∃ m, c.desk.Took limit later true answers m c'.desk)
      (fun c' => c'.Attends ∧ ∃ m, c.desk.Took limit later true answers m c'.desk) from
    hends.leaves (fun _ _ h => h) (fun _ _ h => h) fun _ h => h
  induction rounds generalizing c answers asked with
  | zero => exact .wait ⟨h, 0, Desk.took_none hfaces⟩
  | succ rounds ih =>
    apply Ends.get
    rw [h.active]
    refine .usable h.clean ?_
    cases asked with
    | true => exact .pure ⟨h, 0, Desk.took_none hfaces⟩
    | false =>
      refine .bind ((nextFrame_takes hfaces hanswers).mono ?_ (fun _ _ h => h.elim) ?_)
      · rintro (e | r) c₁ ⟨inlet, stream, rfl, hout⟩
        · obtain ⟨⟨span, rfl⟩, hsame⟩ := hout
          have hidle : Attends { c with inlet, stream } ∧ ∃ m,
              c.desk.Took limit later true answers m { c with inlet, stream }.desk :=
            ⟨h.after h.active, 0, Desk.took_none hsame⟩
          apply Ends.get
          rw [if_pos h.connected]
          split
          · exact .pure hidle
          · exact .wait hidle
        · obtain ⟨a, rest, rfl, rfl, hrest⟩ := hout
          have ha := hanswers a List.mem_cons_self
          have hactive : ({ c with inlet, stream }.hearing [a.reply]).subscription.active = true :=
            active_of_goesOn h.active ha.1
          have hnext (asked : Bool) := @ih ({ c with inlet, stream }.hearing [a.reply]) rest
            (h.after hactive) hrest (fun b hb => hanswers b (List.mem_cons_of_mem _ hb)) asked
          have hmore (c' : Connection)
              (hc' : c'.Attends ∧ ∃ m, ({ c with inlet, stream }.hearing [a.reply]).desk.Took limit
                later true rest m c'.desk) :
              c'.Attends ∧ ∃ m, c.desk.Took limit later true (a :: rest) m c'.desk := by
            obtain ⟨hattends, m, htook⟩ := hc'
            exact ⟨hattends, m + 1, htook.cons⟩
          rcases Reply.cases_of_goesOn ha.1 with ⟨push, hpush, -⟩ | ⟨text, hpush⟩
          · exact hears_push hpush ((hnext _).mono (fun _ => hmore) (fun _ => hmore) hmore)
          · exact hears_fault hpush (hmore _ ⟨h.after hactive, 0, Desk.took_none hrest⟩)
      · rintro c₁ ⟨inlet, stream, rfl, hsame⟩
        exact ⟨h.after h.active, 0, Desk.took_none hsame⟩

/-- The connection has taken the next few answers on behalf of somebody who asked for an event, and
    these are the events among them. -/
def Fetched (limit : Nat) (later : Bytes) (answers : List Answer) (c : Connection)
    (es : List Event) (c' : Connection) : Prop :=
  c'.Attends ∧ ∃ m, c.desk.Took limit later false answers m c'.desk ∧
    ((answers.take m).map Answer.reply).filterMap Reply.event? = es

theorem Attends.fetched_none {inlet : Inlet} {stream : Stream} (h : c.Attends)
    (hfaces : inlet.Faces limit later answers stream) :
    Fetched limit later answers c [] { c with inlet, stream } :=
  ⟨h.after h.active, 0, Desk.took_none hfaces, by rw [List.take_zero]; rfl⟩

theorem Fetched.cons {a : Answer} {rest : List Answer} {inlet : Inlet} {stream : Stream}
    {es : List Event} {c' : Connection}
    (h : Fetched limit later rest
      { c with inlet, stream, subscription := (c.subscription.apply a.reply).2 } es c') :
    Fetched limit later (a :: rest) c (a.reply.event?.toList ++ es) c' := by
  obtain ⟨hattends, m, htook, hes⟩ := h
  refine ⟨hattends, m + 1, htook.cons, ?_⟩
  rw [List.take_succ_cons, List.map_cons, List.filterMap_cons, hes]
  cases a.reply.event? <;> rfl

/-- Asking for an event takes the answers up to the first that is one, and reports none of them. If
    it ends without an event, it has taken none, or a limit on waiting has run out. -/
theorem nextPushWithin_takes (h : c.Attends) (hfaces : c.inlet.Faces limit later answers c.stream)
    (hanswers : Ongoing limit answers) (fuel : Nat) :
    (nextPushWithin fuel).Ends c
      (fun e => Fetched limit later answers c [e])
      (fun e c' => (∃ span, e = .timeout span) ∨ Fetched limit later answers c [] c')
      (Fetched limit later answers c []) := by
  induction fuel generalizing c answers with
  | zero => exact .wait (h.fetched_none hfaces)
  | succ fuel ih =>
    refine .usable h.clean ?_
    apply Ends.get
    rw [h.active]
    refine .bind (.bind ((nextFrame_takes hfaces hanswers).mono ?_ (fun _ _ h => h.elim) ?_))
    · rintro (e | r) c₁ ⟨inlet, stream, rfl, hout⟩
      · obtain ⟨⟨span, rfl⟩, -⟩ := hout
        exact .fail (.inl ⟨span, rfl⟩)
      · obtain ⟨a, rest, rfl, rfl, hrest⟩ := hout
        have ha := hanswers a List.mem_cons_self
        have hattends : Attends { c with
            inlet, stream, subscription := (c.subscription.apply a.reply).2 } :=
          h.after (active_of_goesOn h.active ha.1)
        have hstart : Fetched limit later (a :: rest) c (a.reply.event?.toList ++ []) _ :=
          .cons (hattends.fetched_none hrest)
        refine .pure (.bind (.get ?_))
        rcases Reply.cases_of_goesOn ha.1 with ⟨push, hpush, -⟩ | ⟨text, hpush⟩
        · have hevent := Reply.event?_of_ok hpush
          have hround := (ih hattends hrest fun b hb => hanswers b (List.mem_cons_of_mem _ hb)).mono
            (fun _ _ => Fetched.cons) (fun _ _ => Or.imp_right Fetched.cons) fun _ => Fetched.cons
          rw [Subscription.apply_of_ok hpush] at hstart hround ⊢
          rw [hevent] at hstart hround
          refine .bind (.set (.pure ?_))
          cases push with
          | acknowledgement kind name count => exact .pure hstart
          | message m => exact .pure hstart
          | pong => exact hround
        · have hevent := Reply.event?_of_error hpush
          rw [Subscription.apply_of_error hpush] at hstart ⊢
          rw [hevent] at hstart
          exact .bind (.set (.raise (.inr hstart)))
    · rintro c₁ ⟨inlet, stream, rfl, hsame⟩
      exact h.fetched_none hsame

end Connection

/-! ## A subscriber -/

namespace Subscriber

variable {s : Subscriber} {limit : Nat} {later : Bytes} {answers : List Answer}

/-- The loop of a subscriber goes on and has published all that it knows. -/
structure Attends (s : Subscriber) : Prop where
  alive : s.ended = none
  wanted : s.cancelled = false
  counted : s.count = s.subscription.count

/-- A frame that reports nothing changes nothing. -/
theorem take_of_silent (s : Subscription) {push : Push} (h : push.event? = none) :
    (s.take push).2 = s := by
  cases push with
  | acknowledgement kind name count => cases h
  | message m => rfl
  | pong => rfl

theorem Attends.receive {r : Reply} (h : s.Attends) (hr : r.goesOn = true) :
    (s.receive r).Attends ∧ (s.receive r).desk = s.desk.hear true [r] := by
  rcases Reply.cases_of_goesOn hr with ⟨push, hpush, -⟩ | ⟨text, hpush⟩
  · rw [receive_of_ok hpush]
    refine ⟨⟨h.alive, h.wanted, ?_⟩, ?_⟩
    · cases hevent : push.event? with
      | some e => rfl
      | none =>
        rw [take_of_silent _ hevent]
        exact h.counted
    · simp only [desk, Desk.hear, List.foldl_cons, List.foldl_nil, Subscription.apply_of_ok hpush,
        List.flatMap_cons, List.flatMap_nil, List.append_nil, Reply.events_of_ok hpush, if_true,
        Option.map_some]
  · rw [receive_of_server hpush]
    refine ⟨h, ?_⟩
    simp only [desk, Desk.hear, List.foldl_cons, List.foldl_nil, Subscription.apply_of_error hpush,
      List.flatMap_cons, List.flatMap_nil, List.append_nil, List.filterMap_cons, List.filterMap_nil,
      Reply.event?_of_error hpush, Handlers.calls_of_error _ hpush, if_true, Option.map_some]

/-- The loop takes the next few answers and reports them: all that have arrived, if it may take that
    many. -/
theorem settleWithin_takes (h : s.Attends) (hfaces : s.inlet.Faces limit later answers s.stream)
    (hanswers : Ongoing limit answers) (frames : Nat) :
    (s.settleWithin frames).Attends ∧
      ∃ m, s.desk.Took limit later true answers m (s.settleWithin frames).desk ∧
        ((s.inlet.unread s.stream).length < frames →
          Short ((s.settleWithin frames).inlet.unread (s.settleWithin frames).stream)
            (answers.drop m)) := by
  induction frames generalizing s answers with
  | zero => exact ⟨h, 0, Desk.took_none hfaces, fun hmany => absurd hmany (Nat.not_lt_zero _)⟩
  | succ frames ih =>
    have hround := settleWithin_round h.alive h.wanted hfaces.fit hfaces.unread frames
    have hopen := hfaces.goesOn
    generalize s.settleWithin (frames + 1) = s' at hround
    cases hround with
    | @takes a rest inlet stream first fit stays left =>
      subst first
      have ha := hanswers a List.mem_cons_self
      have hfaces' : inlet.Faces limit later rest stream := ⟨fit, stays.trans hopen, left⟩
      have hbefore : Attends { s with inlet, stream } := ⟨h.alive, h.wanted, h.counted⟩
      obtain ⟨hattends, hdesk⟩ := hbefore.receive ha.1
      have hinlet : ({ s with inlet, stream }.receive a.reply).inlet = inlet :=
        congrArg Desk.inlet hdesk
      have hstream : ({ s with inlet, stream }.receive a.reply).stream = stream :=
        congrArg Desk.stream hdesk
      obtain ⟨hattends', m, htook, hshort⟩ := ih hattends (by rw [hinlet, hstream]; exact hfaces')
        fun b hb => hanswers b (List.mem_cons_of_mem _ hb)
      refine ⟨hattends', m + 1, ?_, fun hmany => hshort ?_⟩
      · rw [hdesk] at htook
        exact htook.cons
      · have hlength := congrArg List.length hfaces.unread
        have hlength' := congrArg List.length left
        have hpos := List.length_pos_iff.mpr a.bytes_ne_nil
        simp only [spell_cons, List.length_append] at hlength hlength'
        rw [hinlet, hstream]
        omega
    | waits fit stays same short =>
      refine ⟨⟨h.alive, h.wanted, h.counted⟩, 0, ?_, fun _ => ?_⟩
      · exact Desk.took_none ⟨fit, stays.trans hopen, same ▸ hfaces.unread⟩
      · rw [same]
        exact short
    | closed final => cases hopen.symm.trans final
    | cutOff final => cases hopen.symm.trans final
    | tooLarge first long =>
      exact absurd long (Nat.not_lt.mpr (hanswers _ (List.mem_of_head? first)).2)

end Subscriber

end RespLink
