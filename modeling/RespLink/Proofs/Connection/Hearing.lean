import RespLink.Proofs.Connection.Failing
import RespLink.Proofs.Connection.PushMode
import RespLink.Proofs.Stream.Awaiting

/-!
# Hearing — a connection that listens takes the frames of its subscription and no others

Listening is a loop with four ways out: nothing is subscribed any more, a handler asks to stop, a
frame is no pushed one, or the stream gives no frame. Which of them it is, and with which frame, is
settled by the frames alone (`Handlers.ending?`), whatever pieces they arrive in and however often
nothing comes for a while. Up to and including that frame every one is taken, in order, and handlers
and mailbox are told of it (`Connection.hearing`); what comes behind it is left for whoever reads
next.

There is one exception. An unfinished frame of which more bytes are buffered than the limit allows
is given up, so a frame that is longer than the limit may end the loop or not, as it happens to be
cut.
-/

namespace RespLink

/-! ## What the frames say -/

namespace Push

/-- The event that a pushed frame is reported as, if it is. -/
def event? : Push → Option Event
  | .acknowledgement kind name count =>
    let count := max count.toInt 0
    some (.changed <|
      if kind.isPattern then ⟨kind, none, name, count⟩ else ⟨kind, name, none, count⟩)
  | .message m => some (.received m)
  | .pong => none

end Push

/-- The event that a reply in push mode is reported as. -/
def Reply.event? (r : Reply) : Option Event :=
  match Push.ofReply r with
  | .ok push => push.event?
  | .error _ => none

theorem Reply.event?_of_ok {r : Reply} {push : Push} (h : Push.ofReply r = .ok push) :
    r.event? = push.event? := by
  rw [event?, h]

theorem Reply.event?_of_error {r : Reply} {e : Error} (h : Push.ofReply r = .error e) :
    r.event? = none := by
  rw [event?, h]

theorem Reply.events_of_ok {r : Reply} {push : Push} (h : Push.ofReply r = .ok push) :
    [r].filterMap event? = push.event?.toList := by
  rw [List.filterMap_cons, event?_of_ok h]
  cases push.event? <;> rfl

namespace Handlers

/-- The calls for a reply in push mode: for a message, of the handler of its channel and then of
    that of its pattern. -/
def calls (hs : Handlers) (r : Reply) : List Handled :=
  match Push.ofReply r with
  | .ok (.message m) =>
    ((hs.get? m.channel).toList ++ (m.pattern.bind hs.get?).toList).map fun h => ⟨h, m⟩
  | _ => []

theorem calls_of_error (hs : Handlers) {r : Reply} {e : Error} (h : Push.ofReply r = .error e) :
    hs.calls r = [] := by
  rw [calls, h]

/-- Whether one of the handlers for a reply asks to stop. -/
def asked (hs : Handlers) (r : Reply) : Bool := (hs.calls r).any fun h => h.handler.stops

/-- How listening ends with a reply, if it does: well when nothing is subscribed any more or a
    handler asks to stop, and with an error when the reply is no pushed frame. -/
def ending? (hs : Handlers) (r : Reply) : Option (Except Error Unit) :=
  match Push.ofReply r with
  | .ok (.acknowledgement _ _ count) => if count.toInt ≤ 0 then some (.ok ()) else .none
  | .ok (.message _) => if hs.asked r then some (.ok ()) else .none
  | .ok .pong => .none
  | .error e => some (.error e)

/-- The replies up to and including the one that listening ends with. -/
def heard (hs : Handlers) : List Reply → List Reply
  | [] => []
  | r :: rest => if (hs.ending? r).isSome then [r] else r :: hs.heard rest

end Handlers

namespace Connection

open Act

variable {c c' : Connection}

/-- The connection after listening to some replies. -/
def hearing (c : Connection) (rs : List Reply) : Connection :=
  { c with
    subscription := rs.foldl (fun s r => (s.apply r).2) c.subscription
    handled := c.handled ++ rs.flatMap c.subscription.handlers.calls
    mailbox := c.mailbox.map fun m => (rs.filterMap Reply.event?).foldl Mailbox.deliver m }

theorem handlers_apply (s : Subscription) (r : Reply) : (s.apply r).2.handlers = s.handlers := by
  unfold Subscription.apply
  split
  · rename_i push hpush
    cases push <;> rfl
  · rfl

theorem handlers_foldl (s : Subscription) (rs : List Reply) :
    (rs.foldl (fun s r => (s.apply r).2) s).handlers = s.handlers := by
  induction rs generalizing s with
  | nil => rfl
  | cons r rs ih => exact (ih _).trans (handlers_apply s r)

@[simp] theorem hearing_handlers (c : Connection) (rs : List Reply) :
    (c.hearing rs).subscription.handlers = c.subscription.handlers :=
  handlers_foldl c.subscription rs

theorem hearing_nil (c : Connection) : c.hearing [] = c := by
  cases c with
  | mk _ _ _ _ _ _ _ _ _ mailbox _ => cases mailbox <;> simp [hearing]

theorem hearing_cons (c : Connection) (r : Reply) (rs : List Reply) :
    c.hearing (r :: rs) = (c.hearing [r]).hearing rs := by
  cases c with
  | mk _ _ _ _ _ _ _ _ subscription mailbox _ =>
    have hhandlers := handlers_apply subscription r
    cases hevent : r.event? <;> cases mailbox <;>
      simp [hearing, hhandlers, hevent]

theorem hearing_of_error {r : Reply} {e : Error} (h : Push.ofReply r = .error e) :
    c.hearing [r] = c := by
  have hevent := Reply.event?_of_error h
  have hcalls := c.subscription.handlers.calls_of_error h
  cases c with
  | mk _ _ _ _ _ _ _ _ subscription mailbox _ =>
    have happly := Subscription.apply_of_error (s := subscription) h
    cases mailbox <;> simp_all [hearing]

theorem hearing_of_ok {r : Reply} {push : Push} (h : Push.ofReply r = .ok push) :
    c.hearing [r] = { c with
      subscription := (c.subscription.take push).2
      handled := c.handled ++ c.subscription.handlers.calls r
      mailbox := c.mailbox.map fun m => push.event?.toList.foldl Mailbox.deliver m } := by
  simp only [hearing, List.foldl_cons, List.foldl_nil, Subscription.apply_of_ok h,
    List.flatMap_cons, List.flatMap_nil, List.append_nil, Reply.events_of_ok h]

/-- What a round of listening does with the frame that it has taken, before it goes on. -/
def heed {α : Type} (r : Reply) (next : Bool → Act α) : Act α := do
  match ← applyPush r with
  | some event => next (← observe event)
  | none => next false

/-- What is left after a round of listening that has taken a pushed frame. -/
theorem hears_push {α : Type} {ok : α → Connection → Prop} {failed : Error → Connection → Prop}
    {waits : Connection → Prop} {next : Bool → Act α} {r : Reply} {push : Push}
    (hpush : Push.ofReply r = .ok push)
    (h : (next (c.subscription.handlers.asked r)).Ends (c.hearing [r]) ok failed waits) :
    (heed r next).Ends c ok failed waits := by
  rw [hearing_of_ok hpush] at h
  simp only [Handlers.asked, Handlers.calls, hpush] at h
  refine .bind (.get ?_)
  rw [Subscription.apply_of_ok hpush]
  refine .bind (.set (.pure ?_))
  cases push with
  | acknowledgement kind name count =>
    rw [List.append_nil] at h
    exact .bind (.bind (.pure (.bind (.update (.pure h)))))
  | message m =>
    simp only [List.any_map, Function.comp_def] at h
    exact .bind (.bind (.get (.bind (.update (.pure (.bind (.update (.pure h))))))))
  | pong =>
    rw [List.append_nil] at h
    cases c with
    | mk _ _ _ _ _ _ _ _ _ mailbox _ => cases mailbox <;> exact h

/-- What is no pushed frame ends the round. -/
theorem hears_fault {α : Type} {ok : α → Connection → Prop} {failed : Error → Connection → Prop}
    {waits : Connection → Prop} {next : Bool → Act α} {r : Reply} {e : Error}
    (hpush : Push.ofReply r = .error e) (h : failed e (c.hearing [r])) :
    (heed r next).Ends c ok failed waits := by
  rw [hearing_of_error hpush] at h
  refine .bind (.get ?_)
  rw [Subscription.apply_of_error hpush]
  exact .bind (.set (.raise h))

/-- Listening goes on after a pushed frame if anything is subscribed then and nobody asked to
    stop. -/
theorem ending?_of_ok {r : Reply} {push : Push} (hactive : c.subscription.active = true)
    (hpush : Push.ofReply r = .ok push) :
    c.subscription.handlers.ending? r =
      if (c.hearing [r]).subscription.active && !c.subscription.handlers.asked r then none
      else some (.ok ()) := by
  have hactive' : (c.hearing [r]).subscription.active = (c.subscription.take push).2.active := by
    rw [hearing_of_ok hpush]
  rw [hactive', Subscription.active_take, hactive]
  unfold Handlers.ending?
  rw [hpush]
  cases push with
  | acknowledgement kind name count =>
    have hasked : c.subscription.handlers.asked r = false := by
      rw [Handlers.asked, Handlers.calls, hpush]
      rfl
    rw [hasked]
    show (if count.toInt ≤ 0 then some (Except.ok ()) else none) =
      if decide (0 < count.toInt.toNat) && !false then none else some (Except.ok ())
    rcases Int.lt_or_le 0 count.toInt with hsome | hnone
    · have hcount : 0 < count.toInt.toNat := by omega
      rw [if_neg (Int.not_le.mpr hsome), decide_eq_true hcount]
      rfl
    · have hcount : count.toInt.toNat = 0 := by omega
      rw [if_pos hnone, hcount]
      rfl
  | message m => cases c.subscription.handlers.asked r <;> rfl
  | pong =>
    have hasked : c.subscription.handlers.asked r = false := by
      rw [Handlers.asked, Handlers.calls, hpush]
      rfl
    rw [hasked]
    rfl

/-! ## One go -/

/-- What is left of a connection after it has listened to the first `m` answers, `later` being the
    bytes that were not there. -/
structure Heard (c : Connection) (later : Bytes) (answers : List Answer) (m : Nat)
    (c' : Connection) : Prop where
  le : m ≤ answers.length
  unread : c'.inlet.unread c'.stream ++ later = spell (answers.drop m)
  same : c' = { c.hearing ((answers.take m).map Answer.reply) with
    inlet := c'.inlet, stream := c'.stream, taint := c'.taint, connected := c'.connected }

/-- How listening may end after the first so many answers, with some bytes in the buffer. -/
inductive Concludes (limit : Nat) (hs : Handlers) (ended : Bool) (buffer : Bytes) :
    List Answer → Nat → Except Error Unit → Prop
  | last {a : Answer} {rest : List Answer} {out : Except Error Unit}
    (ending : hs.ending? a.reply = some out) : Concludes limit hs ended buffer (a :: rest) 1 out
  | onward {a : Answer} {rest : List Answer} {m : Nat} {out : Except Error Unit}
    (ending : hs.ending? a.reply = none) (next : Concludes limit hs ended buffer rest m out) :
    Concludes limit hs ended buffer (a :: rest) (m + 1) out
  | tooLarge {a : Answer} {rest : List Answer} (long : Overlong limit buffer a) :
    Concludes limit hs ended buffer (a :: rest) 0 (.error (.protocol (.tooLarge limit)))
  | closed (closed : ended = true) :
    Concludes limit hs ended buffer [] 0 (.error .connectionClosed)

/-- Listening has ended after some of the answers. -/
def Over (limit : Nat) (c : Connection) (later : Bytes) (answers : List Answer)
    (out : Except Error Unit) (c' : Connection) : Prop :=
  ∃ m, Heard c later answers m c' ∧
    Concludes limit c.subscription.handlers c.stream.ended c'.inlet.decoder.buffer answers m out

/-- Listening goes on after the first `m` answers, and the next one is not there yet. -/
structure Waits (limit : Nat) (c : Connection) (later : Bytes) (answers : List Answer) (m : Nat)
    (c' : Connection) : Prop where
  heard : Heard c later answers m c'
  onward : ∀ a ∈ answers.take m, c.subscription.handlers.ending? a.reply = none
  short : Short (c'.inlet.unread c'.stream) (answers.drop m)
  goesOn : c.stream.ended = false
  stays : c'.stream.ended = c.stream.ended
  sound : c'.Sound fun i => i.Fit limit
  active : c'.subscription.active = true

variable {limit : Nat} {later : Bytes} {answers : List Answer}

theorem heard_refl (hu : c.inlet.unread c.stream ++ later = spell answers) (inlet : Inlet)
    (stream : Stream) (taint : Option String) (connected : Bool)
    (hunread : inlet.unread stream = c.inlet.unread c.stream) :
    Heard c later answers 0 { c with inlet, stream, taint, connected } := by
  refine ⟨Nat.zero_le _, by rw [hunread]; exact hu, ?_⟩
  rw [List.take_zero, List.map_nil, hearing_nil]

theorem Heard.cons {a : Answer} {rest : List Answer} {m : Nat} (inlet : Inlet) (stream : Stream)
    (h : Heard ({ c with inlet, stream }.hearing [a.reply]) later rest m c') :
    Heard c later (a :: rest) (m + 1) c' := by
  refine ⟨Nat.succ_le_succ h.le, h.unread, ?_⟩
  rw [List.take_succ_cons, List.map_cons, hearing_cons]
  exact h.same

/-- What comes next is the first answer. If it does not come, listening waits for it, or ends. -/
theorem nextFrame_hears (h : c.Sound fun i => i.Fit limit) (hactive : c.subscription.active = true)
    (hu : c.inlet.unread c.stream ++ later = spell answers)
    (hended : c.stream.ended = true → later = []) :
    nextFrame.Ends c
      (fun out c' => ∃ inlet stream, c' = { c with inlet, stream } ∧
        match out with
        | .ok r => inlet.Fit limit stream ∧ stream.ended = c.stream.ended ∧
          ∃ a rest, answers = a :: rest ∧ a.reply = r ∧ inlet.unread stream ++ later = spell rest
        | .error (.timeout _) => Waits limit c later answers 0 c'
        | .error e => inlet.unread stream = c.inlet.unread c.stream ∧
          Concludes limit c.subscription.handlers c.stream.ended inlet.decoder.buffer answers 0
            (.error e))
      (fun _ _ => False) (Waits limit c later answers 0) := by
  have hcomes := h.wire.next_comes hu
  unfold nextFrame
  apply Ends.get
  generalize c.inlet.next c.stream = found at hcomes
  refine .bind (.set ?_)
  cases hcomes with
  | frame first fit stays left => exact .pure ⟨_, _, rfl, fit, stays, _, _, first, rfl, left⟩
  | @pending inlet stream goesOn fit stays same short =>
    have hidle : Waits limit c later answers 0 { c with inlet, stream } :=
      ⟨heard_refl hu inlet stream c.taint c.connected same, by simp, same ▸ short, goesOn, stays,
        ⟨h.clean, h.connected, fit⟩, hactive⟩
    dsimp only
    split
    · exact .pure ⟨_, _, rfl, hidle⟩
    · exact .wait hidle
  | finished closed stays same lost =>
    refine .pure ⟨_, _, rfl, same, ?_⟩
    cases answers with
    | nil => exact .closed closed
    | cons a rest =>
      rw [hended closed, spell_cons] at lost
      exact absurd (List.append_eq_nil_iff.mp lost.symm).1 a.bytes_ne_nil
  | cutOff closed stays lost => exact absurd (hended closed) lost
  | tooLarge first long same =>
    subst first
    exact .pure ⟨_, _, rfl, same, .tooLarge long⟩

theorem Over.cons {a : Answer} {rest : List Answer} {out : Except Error Unit} {inlet : Inlet}
    {stream : Stream} (hending : c.subscription.handlers.ending? a.reply = none)
    (hstays : stream.ended = c.stream.ended)
    (h : Over limit ({ c with inlet, stream }.hearing [a.reply]) later rest out c') :
    Over limit c later (a :: rest) out c' := by
  obtain ⟨m, hheard, hout⟩ := h
  rw [hearing_handlers] at hout
  exact ⟨m + 1, hheard.cons _ _, .onward hending (hstays ▸ hout)⟩

theorem Waits.cons {a : Answer} {rest : List Answer} {m : Nat} {inlet : Inlet} {stream : Stream}
    (hending : c.subscription.handlers.ending? a.reply = none)
    (hstays : stream.ended = c.stream.ended)
    (h : Waits limit ({ c with inlet, stream }.hearing [a.reply]) later rest m c') :
    Waits limit c later (a :: rest) (m + 1) c' := by
  refine ⟨h.heard.cons _ _, ?_, h.short, hstays ▸ h.goesOn, h.stays.trans hstays, h.sound, h.active⟩
  intro b hb
  rw [List.take_succ_cons, List.mem_cons] at hb
  rcases hb with rfl | hb
  · exact hending
  · have honward := h.onward b hb
    rwa [hearing_handlers] at honward

/-- Listening ends well where nothing is subscribed or somebody asked to stop. -/
theorem listenWithin_stops {fuel : Nat} {asked : Bool} {ok : Unit → Connection → Prop}
    {failed : Error → Connection → Prop} {waits : Connection → Prop} (hclean : c.taint = none)
    (hstop : (c.subscription.active && !asked) = false) (h : ok () c) :
    (listenWithin .never (fuel + 1) asked).Ends c ok failed waits := by
  apply Ends.get
  cases hactive : c.subscription.active with
  | false => exact .pure h
  | true =>
    rw [hactive] at hstop
    have hasked : asked = true := by simpa using hstop
    rw [hasked]
    exact .usable hclean (.pure h)

/-- Listening without a pause takes one answer after the other. Each holds a byte at least, so the
    rounds do not run out before the answers do. -/
theorem listenWithin_hears {fuel : Nat} (h : c.Sound fun i => i.Fit limit)
    (hactive : c.subscription.active = true)
    (hu : c.inlet.unread c.stream ++ later = spell answers)
    (hended : c.stream.ended = true → later = [])
    (hfuel : (c.inlet.unread c.stream).length + 2 ≤ fuel) :
    (listenWithin .never fuel false).Ends c
      (fun done => Over limit c later answers (.ok done))
      (fun e => Over limit c later answers (.error e))
      (fun c' => ∃ m, Waits limit c later answers m c') := by
  induction fuel generalizing c answers with
  | zero => exact absurd hfuel (by omega)
  | succ fuel ih =>
    apply Ends.get
    rw [hactive]
    refine .usable h.clean ?_
    refine .bind ((nextFrame_hears h hactive hu hended).mono ?_ (fun _ _ h => h.elim)
      fun _ hwaits => ⟨0, hwaits⟩)
    rintro (e | r) c₁ ⟨inlet, stream, rfl, hout⟩
    · have hfail (hquiet : inlet.unread stream = c.inlet.unread c.stream)
          (hout : Concludes limit c.subscription.handlers c.stream.ended inlet.decoder.buffer
            answers 0 (.error e)) :
          (fail e : Act Unit).Ends { c with inlet, stream }
            (fun done => Over limit c later answers (.ok done))
            (fun e => Over limit c later answers (.error e))
            (fun c' => ∃ m, Waits limit c later answers m c') := by
        apply Ends.fail
        unfold tainted
        split
        · exact ⟨0, heard_refl hu inlet stream _ _ hquiet, hout⟩
        · exact ⟨0, heard_refl hu inlet stream c.taint c.connected hquiet, hout⟩
      cases e with
      | timeout span =>
        apply Ends.get
        rw [if_pos hout.sound.connected]
        exact .wait ⟨0, hout⟩
      | _ => exact hfail hout.1 hout.2
    · obtain ⟨hfit, hstays, a, rest, rfl, rfl, hleft⟩ := hout
      have hrest : (inlet.unread stream).length + 2 ≤ fuel := by
        have hlength := congrArg List.length hu
        have hlength' := congrArg List.length hleft
        have hpos := List.length_pos_iff.mpr a.bytes_ne_nil
        simp only [spell_cons, List.length_append] at hlength hlength'
        omega
      have hone : Heard c later (a :: rest) 1 ({ c with inlet, stream }.hearing [a.reply]) :=
        .cons inlet stream
          (heard_refl (c := { c with inlet, stream }.hearing [a.reply]) hleft inlet stream c.taint
            c.connected rfl)
      cases hpush : Push.ofReply a.reply with
      | error e =>
        refine hears_fault hpush ⟨1, hone, .last ?_⟩
        rw [Handlers.ending?, hpush]
      | ok push =>
        have hending := ending?_of_ok (c := { c with inlet, stream }) hactive hpush
        refine hears_push hpush ?_
        split at hending
        · rename_i hon
          rw [Bool.and_eq_true, Bool.not_eq_true'] at hon
          have hround := ih (c := { c with inlet, stream }.hearing [a.reply])
            ⟨h.clean, h.connected, hfit⟩ hon.1 hleft (fun hover => hended (hstays ▸ hover)) hrest
          rw [hon.2]
          refine hround.mono (fun _ _ hover => hover.cons hending hstays)
            (fun _ _ hover => hover.cons hending hstays) ?_
          rintro c' ⟨m, hwaits⟩
          exact ⟨m + 1, hwaits.cons hending hstays⟩
        · rename_i hoff
          obtain ⟨fuel, rfl⟩ : ∃ k, fuel = k + 1 := ⟨fuel - 1, by omega⟩
          exact listenWithin_stops h.clean (by simpa using hoff) ⟨1, hone, .last hending⟩

/-- Listening ends after some of the answers, or it waits. -/
theorem listen_hears (h : c.Sound fun i => i.Fit limit) (hactive : c.subscription.active = true)
    (hu : c.inlet.unread c.stream ++ later = spell answers)
    (hended : c.stream.ended = true → later = []) :
    (∃ out c' m, attempt (listen .never) c = .ok out c' ∧ Heard c later answers m c' ∧
      Concludes limit c.subscription.handlers c.stream.ended c'.inlet.decoder.buffer answers m
        out) ∨
    ∃ c' m, attempt (listen .never) c = .error .waiting c' ∧ Waits limit c later answers m c' := by
  have hfuel : (c.inlet.unread c.stream).length + 2 ≤ c.backlog + 2 := by
    rw [Inlet.unread, List.length_append]
    exact Nat.le_refl _
  have hends : (listen .never).Ends c (fun done => Over limit c later answers (.ok done))
      (fun e => Over limit c later answers (.error e))
      (fun c' => ∃ m, Waits limit c later answers m c') :=
    .get (listenWithin_hears h hactive hu hended hfuel)
  rcases hends.attempt with ⟨out, c', hrun, m, hheard, hout⟩ | ⟨c', hrun, m, hwaits⟩
  · exact .inl ⟨out, c', m, hrun, hheard, hout⟩
  · exact .inr ⟨c', m, hrun, hwaits⟩

end Connection

/-! ## Piece by piece -/

namespace Peer

/-- What a peer delivers. -/
def bytes : Peer → Bytes
  | .deliver bytes => bytes
  | .finish | .sever => []

/-- Whether a peer delivers nothing after it has ended its direction. -/
def orderly : (ended : Bool) → List Peer → Bool
  | _, [] => true
  | ended, .deliver _ :: rest => !ended && orderly ended rest
  | _, .finish :: rest => orderly true rest
  | ended, .sever :: rest => orderly ended rest

theorem bytes_of_orderly {arrivals : List Peer} (h : orderly true arrivals) :
    arrivals.flatMap bytes = [] := by
  induction arrivals with
  | nil => rfl
  | cons p rest ih =>
    cases p with
    | deliver bytes => cases h
    | finish => exact ih h
    | sever => exact ih h

end Peer

namespace Stream

variable {s : Stream} {p : Peer}

theorem orderly_undergo {rest : List Peer} (h : Peer.orderly s.ended (p :: rest)) :
    Peer.orderly (s.undergo p).ended rest := by
  cases p with
  | deliver bytes => exact (Bool.and_eq_true_iff.mp h).2
  | finish => exact h
  | sever => exact h

/-- What the peer does later, it cannot take back its end. -/
theorem ended_foldl {arrivals : List Peer} (h : s.ended = true) :
    (arrivals.foldl undergo s).ended = true := by
  induction arrivals generalizing s with
  | nil => exact h
  | cons p rest ih => exact ih (by cases p <;> first | exact h | rfl)

theorem ended_foldl_congr {s' : Stream} {arrivals : List Peer} (h : s.ended = s'.ended) :
    (arrivals.foldl undergo s).ended = (arrivals.foldl undergo s').ended := by
  induction arrivals generalizing s s' with
  | nil => exact h
  | cons p rest ih => exact ih (by cases p <;> first | exact h | rfl)

end Stream

namespace Inlet

variable {i : Inlet} {s : Stream} {p : Peer}

theorem unread_undergo (i : Inlet) (s : Stream) (p : Peer) :
    i.unread (s.undergo p) = i.unread s ++ p.bytes := by
  cases p with
  | deliver bytes => exact (List.append_assoc _ _ _).symm
  | finish => exact (List.append_nil _).symm
  | sever => exact (List.append_nil _).symm

theorem Fit.undergo {limit : Nat} {rest : List Peer} (h : i.Fit limit s)
    (horderly : Peer.orderly s.ended (p :: rest)) : i.Fit limit (s.undergo p) := by
  refine ⟨h.limit_eq, h.sound, h.quiet, fun hend => ?_⟩
  obtain ⟨hended, harrived, hbuffer⟩ := h.seen hend
  rw [hended] at horderly
  cases p with
  | deliver bytes => cases horderly
  | finish => exact ⟨rfl, harrived, hbuffer⟩
  | sever => exact ⟨hended, harrived, hbuffer⟩

end Inlet

/-- What has come of listening. -/
structure Hearing where
  /-- How it ended, unless it still waits. -/
  outcome : Option (Except Error Unit)
  connection : Connection
  /-- What the peer does afterwards. -/
  toCome : List Peer

namespace Connection

open Act

variable {c c' : Connection} {limit : Nat} {answers : List Answer}

/-- Listens while the peer does one thing after the other. Whenever nothing is there to be taken, be
    it that a limit on waiting runs out or that there is none, listening goes on with what comes
    next. -/
def hear (c : Connection) : (arrivals : List Peer) → Hearing
  | [] =>
    match attempt (listen .never) c with
    | .ok outcome c' => ⟨some outcome, c', []⟩
    | .error _ c' => ⟨none, c', []⟩
  | p :: rest =>
    match attempt (listen .never) c with
    | .ok outcome c' => ⟨some outcome, c', p :: rest⟩
    | .error _ c' => { c' with stream := c'.stream.undergo p }.hear rest

theorem hearing_append (c : Connection) (rs more : List Reply) :
    c.hearing (rs ++ more) = (c.hearing rs).hearing more := by
  induction rs generalizing c with
  | nil => rw [List.nil_append, hearing_nil]
  | cons r rs ih => rw [List.cons_append, hearing_cons, ih, ← hearing_cons]

theorem Concludes.after {hs : Handlers} {ended : Bool} {buffer : Bytes} {m n : Nat}
    {out : Except Error Unit} (honward : ∀ a ∈ answers.take m, hs.ending? a.reply = none)
    (hm : m ≤ answers.length) (h : Concludes limit hs ended buffer (answers.drop m) n out) :
    Concludes limit hs ended buffer answers (m + n) out := by
  induction m generalizing answers with
  | zero =>
    rw [Nat.zero_add]
    exact h
  | succ m ih =>
    cases answers with
    | nil => cases hm
    | cons a rest =>
      rw [Nat.add_right_comm]
      have hrest := Nat.le_of_succ_le_succ hm
      refine .onward (honward a List.mem_cons_self) (ih (fun b hb => ?_) hrest h)
      exact honward b (List.mem_cons_of_mem _ hb)

theorem Concludes.mono {hs : Handlers} {ended ended' : Bool} {buffer : Bytes} {m : Nat}
    {out : Except Error Unit} (hended : ended = true → ended' = true)
    (h : Concludes limit hs ended buffer answers m out) :
    Concludes limit hs ended' buffer answers m out := by
  induction h with
  | last ending => exact .last ending
  | onward ending _ ih => exact .onward ending ih
  | tooLarge long => exact .tooLarge long
  | closed closed => exact .closed (hended closed)

/-- What the peer does next, a connection that waits is fit to take. -/
theorem Waits.sound_undergo {later : Bytes} {m : Nat} {p : Peer} {rest : List Peer}
    (h : Waits limit c later answers m c') (horderly : Peer.orderly c'.stream.ended (p :: rest)) :
    Sound (fun i => i.Fit limit) { c' with stream := c'.stream.undergo p } :=
  ⟨h.sound.clean, h.sound.connected, h.sound.wire.undergo horderly⟩

theorem Waits.handlers_eq {later : Bytes} {m : Nat} (h : Waits limit c later answers m c') :
    c'.subscription.handlers = c.subscription.handlers := by
  have hsame := congrArg (fun d : Connection => d.subscription.handlers) h.heard.same
  exact hsame.trans (hearing_handlers c _)

/-- What was heard before a pause and what was heard after it. -/
theorem Heard.after {later later' : Bytes} {m n : Nat} {stream : Stream} {c'' : Connection}
    (h : Heard c later answers m c')
    (h' : Heard { c' with stream } later' (answers.drop m) n c'') :
    Heard c later' answers (m + n) c'' := by
  refine ⟨?_, ?_, ?_⟩
  · have hle := h'.le
    rw [List.length_drop] at hle
    have hle' := h.le
    omega
  · rw [← List.drop_drop]
    exact h'.unread
  · have hsame := h'.same
    rw [h.same] at hsame
    rw [List.take_add, List.map_append, hearing_append]
    exact hsame

/-- Where nothing is to come, listening waits only if it has heard everything. -/
theorem Waits.heard_all {m : Nat} (h : Waits limit c [] answers m c') :
    m = answers.length ∧ ∀ a ∈ answers, c.subscription.handlers.ending? a.reply = none := by
  have hunread := h.heard.unread
  have hshort := h.short
  rw [List.append_nil] at hunread
  have hall : m = answers.length :=
    Nat.le_antisymm h.heard.le (List.drop_eq_nil_iff.mp (eq_nil_of_short hunread hshort))
  refine ⟨hall, fun a ha => h.onward a ?_⟩
  rw [hall, List.take_length]
  exact ha

theorem hear_concludes {arrivals : List Peer} (h : c.Sound fun i => i.Fit limit)
    (hactive : c.subscription.active = true) (horderly : Peer.orderly c.stream.ended arrivals)
    (hu : c.inlet.unread c.stream ++ arrivals.flatMap Peer.bytes = spell answers) :
    ∃ m, Heard c ((c.hear arrivals).toCome.flatMap Peer.bytes) answers m
        (c.hear arrivals).connection ∧
      match (c.hear arrivals).outcome with
      | some out => Concludes limit c.subscription.handlers
          (arrivals.foldl Stream.undergo c.stream).ended
          (c.hear arrivals).connection.inlet.decoder.buffer answers m out
      | none => m = answers.length ∧
          (∀ a ∈ answers, c.subscription.handlers.ending? a.reply = none) ∧
          (arrivals.foldl Stream.undergo c.stream).ended = false := by
  induction arrivals generalizing c answers with
  | nil =>
    rcases listen_hears h hactive hu fun _ => rfl with
      ⟨out, c', m, hrun, hheard, hout⟩ | ⟨c', m, hrun, hwaits⟩
    · rw [hear, hrun]
      exact ⟨m, hheard, hout⟩
    · rw [hear, hrun]
      obtain ⟨hall, honward⟩ := hwaits.heard_all
      exact ⟨m, hwaits.heard, hall, honward, hwaits.goesOn⟩
  | cons p rest ih =>
    have hended (hover : c.stream.ended = true) : (p :: rest).flatMap Peer.bytes = [] :=
      Peer.bytes_of_orderly (hover ▸ horderly)
    rcases listen_hears h hactive hu hended with
      ⟨out, c', m, hrun, hheard, hout⟩ | ⟨c', m, hrun, hwaits⟩
    · rw [hear, hrun]
      exact ⟨m, hheard, hout.mono Stream.ended_foldl⟩
    · rw [hear, hrun]
      have horderly' : Peer.orderly c'.stream.ended (p :: rest) := hwaits.stays.symm ▸ horderly
      have hu' : c'.inlet.unread (c'.stream.undergo p) ++ rest.flatMap Peer.bytes =
          spell (answers.drop m) := by
        rw [Inlet.unread_undergo, List.append_assoc, ← List.flatMap_cons]
        exact hwaits.heard.unread
      obtain ⟨n, hheard, hout⟩ := ih (c := { c' with stream := c'.stream.undergo p })
        (hwaits.sound_undergo horderly') hwaits.active (Stream.orderly_undergo horderly') hu'
      refine ⟨m + n, hwaits.heard.after hheard, ?_⟩
      have hfinally : ((p :: rest).foldl Stream.undergo c.stream).ended =
          (rest.foldl Stream.undergo (c'.stream.undergo p)).ended :=
        Stream.ended_foldl_congr (by cases p <;> exact hwaits.stays.symm)
      rw [hfinally]
      cases houtcome : ({ c' with stream := c'.stream.undergo p }.hear rest).outcome with
      | some out =>
        rw [houtcome] at hout
        exact (hwaits.handlers_eq ▸ hout).after hwaits.onward hwaits.heard.le
      | none =>
        rw [houtcome] at hout
        obtain ⟨hall, honward, hgoesOn⟩ := hout
        rw [List.length_drop] at hall
        refine ⟨by rw [hall, Nat.add_sub_cancel' hwaits.heard.le], fun a ha => ?_, hgoesOn⟩
        rw [← List.take_append_drop m answers, List.mem_append] at ha
        rcases ha with ha | ha
        · exact hwaits.onward a ha
        · exact hwaits.handlers_eq ▸ honward a ha

/-- Where listening ends is where the frames say, unless one of them is longer than the limit and
    comes in pieces. -/
theorem Concludes.heard {hs : Handlers} {ended : Bool} {buffer : Bytes} {m : Nat}
    {out : Except Error Unit} (h : Concludes limit hs ended buffer answers m out) :
    (m = (hs.heard (answers.map Answer.reply)).length ∧
      some out = ((answers.map Answer.reply).findSome? hs.ending?).or
        (if ended then some (.error .connectionClosed) else none)) ∨
    (m < (hs.heard (answers.map Answer.reply)).length ∧
      ∃ a, answers[m]? = some a ∧ Overlong limit buffer a ∧
        out = .error (.protocol (.tooLarge limit))) := by
  induction h with
  | last ending => simp [Handlers.heard, ending]
  | onward ending _ ih => simpa [Handlers.heard, ending] using ih
  | @tooLarge a rest long =>
    refine .inr ⟨?_, a, rfl, long, rfl⟩
    rw [List.map_cons, Handlers.heard]
    split <;> simp
  | closed closed => simp [Handlers.heard, closed]

theorem heard_of_onward {hs : Handlers} {rs : List Reply} (h : ∀ r ∈ rs, hs.ending? r = none) :
    hs.heard rs = rs ∧ rs.findSome? hs.ending? = none := by
  induction rs with
  | nil => exact ⟨rfl, rfl⟩
  | cons r rs ih =>
    obtain ⟨hheard, hnone⟩ := ih fun r' hr' => h r' (List.mem_cons_of_mem _ hr')
    have hr := h r List.mem_cons_self
    simp [Handlers.heard, hr, hheard, hnone]

/-! ## Every reachable connection -/

end Connection

/-- What the peer does, if it is the peer. -/
def Happening.peer? : Happening → Option Peer
  | .deed _ => none
  | .peer p => some p

namespace Connection

open Act

variable {c : Connection} {limit : Nat}

theorem enduring_fit (limit : Nat) (ended : Bool) :
    Enduring fun i s => i.Fit limit s ∧ s.ended = ended where
  send {i s s' bytes} h hsend := by
    obtain ⟨-, rfl⟩ := Stream.send_ok hsend
    exact ⟨⟨h.1.limit_eq, h.1.sound, h.1.quiet, h.1.seen⟩, h.2⟩
  next {i s} h hquiet := by
    have hfound := h.1.next_found
    have hstays : (i.next s).2.2.ended = s.ended := by
      obtain ⟨arrived, hstream⟩ := (i.next_looked s).stream
      rw [hstream]
    rw [h.2] at hstays
    generalize i.next s = found at hfound hquiet hstays
    cases hfound with
    | frame fit read => exact ⟨fit, hstays⟩
    | pending fit goesOn read => exact ⟨fit, hstays⟩
    | finished fit closed empty => exact ⟨fit, hstays⟩
    | cutOff closed read full => exact absurd rfl (hquiet _)
    | spoilt first why => exact absurd rfl (hquiet _)

/-- The inlet of a connection that is not tainted is fit, if the peer is orderly. -/
theorem fit_of_live {happenings : List Happening} {arrivals : List Peer}
    (h : c.taint = none → (c.Sound fun i => i.Fit limit) ∧
      Peer.orderly c.stream.ended (happenings.filterMap Happening.peer? ++ arrivals))
    (hclean : (c.live happenings).taint = none) :
    ((c.live happenings).Sound fun i => i.Fit limit) ∧
      Peer.orderly (c.live happenings).stream.ended arrivals := by
  induction happenings generalizing c with
  | nil => exact h hclean
  | cons x happenings ih =>
    refine ih (fun hafter => ?_) hclean
    cases x with
    | deed d =>
      have hbefore : c.taint = none := by
        by_cases hc : c.taint = none
        · exact hc
        · exact absurd hafter (deed_leaves_tainted hc d)
      obtain ⟨hsound, horderly⟩ := h hbefore
      have hsteady : Steady (fun i s => i.Fit limit s ∧ s.ended = c.stream.ended) c :=
        fun _ => ⟨hsound.clean, hsound.connected, hsound.wire, rfl⟩
      have hafter' := d.steady_keeps (enduring_fit limit c.stream.ended) c hsteady hafter
      exact ⟨⟨hafter'.clean, hafter'.connected, hafter'.wire.1⟩, hafter'.wire.2.symm ▸ horderly⟩
    | peer p =>
      obtain ⟨hsound, horderly⟩ := h hafter
      exact ⟨⟨hafter, hsound.connected, hsound.wire.undergo horderly⟩,
        Stream.orderly_undergo horderly⟩

/-- A connection over a stream that was open already, after whatever was done with it. Its peer has
    delivered nothing after it ended its direction. -/
def Reached (c : Connection) (settings : Settings) : Prop :=
  ∃ (stream : Stream) (happenings : List Happening),
    Peer.orderly stream.ended (happenings.filterMap Happening.peer?) = true ∧
    (ofStream stream settings).live happenings = c

theorem Reached.sound {settings : Settings} (h : c.Reached settings) (hclean : c.taint = none) :
    c.Sound fun i => i.Fit settings.maxFrameSize := by
  obtain ⟨stream, happenings, horderly, rfl⟩ := h
  rw [← List.append_nil (happenings.filterMap _)] at horderly
  exact (fit_of_live (fun _ => ⟨⟨rfl, rfl, Inlet.fit_start _ _⟩, horderly⟩) hclean).1

/-- A connection in push mode that listens takes the frames up to the one that ends its listening,
    tells handlers and mailbox of each of them, and leaves the others, however they arrive and
    however often it has to wait for them. If none of them ends it, the end of the stream does. The
    one thing that can come in between is a frame that is longer than the limit and comes in pieces:
    more of it than the limit is buffered then, and not all of it. -/
theorem listen_takes_subscription (stream : Stream) (settings : Settings)
    {happenings : List Happening} {arrivals : List Peer} {answers : List Answer}
    (hc : (ofStream stream settings).live happenings = c)
    (horderly : Peer.orderly stream.ended (happenings.filterMap Happening.peer? ++ arrivals))
    (hclean : c.taint = none) (hactive : c.subscription.active = true)
    (hanswers : c.inlet.unread c.stream ++ arrivals.flatMap Peer.bytes = spell answers) :
    ∃ m, Heard c ((c.hear arrivals).toCome.flatMap Peer.bytes) answers m
        (c.hear arrivals).connection ∧
      ((m = (c.subscription.handlers.heard (answers.map Answer.reply)).length ∧
        (c.hear arrivals).outcome =
          ((answers.map Answer.reply).findSome? c.subscription.handlers.ending?).or
            (if (arrivals.foldl Stream.undergo c.stream).ended then
              some (.error .connectionClosed) else none)) ∨
      (m < (c.subscription.handlers.heard (answers.map Answer.reply)).length ∧
        ∃ a, answers[m]? = some a ∧ settings.maxFrameSize < a.bytes.length ∧
          Overlong settings.maxFrameSize (c.hear arrivals).connection.inlet.decoder.buffer a ∧
          (c.hear arrivals).outcome =
            some (.error (.protocol (.tooLarge settings.maxFrameSize))))) := by
  have hstart : (ofStream stream settings).taint = none →
      ((ofStream stream settings).Sound fun i => i.Fit settings.maxFrameSize) ∧
        Peer.orderly stream.ended (happenings.filterMap Happening.peer? ++ arrivals) :=
    fun _ => ⟨⟨rfl, rfl, Inlet.fit_start _ _⟩, horderly⟩
  subst hc
  obtain ⟨hsound, hrest⟩ := fit_of_live hstart hclean
  obtain ⟨m, hheard, hout⟩ := hear_concludes hsound hactive hrest hanswers
  refine ⟨m, hheard, ?_⟩
  split at hout
  · rename_i out hsome
    rw [hsome]
    rcases hout.heard with ⟨hm, hout⟩ | ⟨hm, a, ha, hlong, rfl⟩
    · exact .inl ⟨hm, hout⟩
    · exact .inr ⟨hm, a, ha, hlong.length, hlong, rfl⟩
  · rename_i hnone
    obtain ⟨hall, honward, hgoesOn⟩ := hout
    have hreplies : ∀ r ∈ answers.map Answer.reply,
        ((ofStream stream settings).live happenings).subscription.handlers.ending? r = none := by
      simpa using honward
    obtain ⟨heq, hquiet⟩ := heard_of_onward hreplies
    refine .inl ⟨by rw [heq, hall, List.length_map], ?_⟩
    rw [hnone, hquiet, hgoesOn]
    rfl

end Connection

instance decidableEqExcept {ε α : Type} [DecidableEq ε] [DecidableEq α] :
    DecidableEq (Except ε α)
  | .ok a, .ok b => decidable_of_iff (a = b) (by simp)
  | .error e, .error f => decidable_of_iff (e = f) (by simp)
  | .ok _, .error _ => isFalse (by simp)
  | .error _, .ok _ => isFalse (by simp)

namespace Connection

open Broadcast (confirmation)

/-- What a server says to a client that subscribes and unsubscribes, after its first word. -/
def subscribedTalk : List Answer :=
  [.ofReply (.array [.bulk (Text.toBytes "message"), .bulk [122], .bulk [33]]) rfl,
    .ofReply (confirmation "unsubscribe" [122] 0) rfl, .ok]

/-- A connection that has subscribed to a channel. The first `ahead` bytes of what the server says
    next came with its confirmation. -/
def subscribed (settings : Settings) (ahead : Nat) : Connection :=
  let joined := Answer.ofReply (confirmation "subscribe" [122] 1) rfl
  (ofStream (Stream.greeting (joined.bytes ++ (spell subscribedTalk).take ahead)) settings).live
    [.deed (.operate (.subscribe [[122]])), .deed (.operate .nextPush)]

theorem listen_takes_subscription_subscribed :
    ((subscribed Settings.default 12).hear
      [.deliver ((spell subscribedTalk).drop 12), .finish]).outcome = some (.ok ()) := by
  have hclean : (subscribed Settings.default 12).taint = none := by decide +kernel
  have hactive : (subscribed Settings.default 12).subscription.active = true := by decide +kernel
  have hunread : (subscribed Settings.default 12).inlet.unread
      (subscribed Settings.default 12).stream ++
      ([.deliver ((spell subscribedTalk).drop 12), .finish] : List Peer).flatMap Peer.bytes =
        spell subscribedTalk := by
    decide +kernel
  have hwithin : ∀ a ∈ subscribedTalk, a.bytes.length ≤ Settings.default.maxFrameSize := by
    decide +kernel
  obtain ⟨m, -, ⟨-, hout⟩ | ⟨-, a, ha, hlong, -, -⟩⟩ :=
    listen_takes_subscription _ Settings.default rfl (by rfl) hclean hactive hunread
  · exact hout.trans (by decide +kernel)
  · exact absurd hlong (Nat.not_lt.mpr (hwithin a (List.mem_of_getElem? ha)))

/-- The same with a limit of eight bytes: the message came in two pieces, the first of which holds
    more than that, so listening ends before it. -/
theorem listen_gives_up_pieces : ∃ settings : Settings, settings.check = .ok () ∧
    (subscribed settings 12).taint = none ∧
    (subscribed settings 12).subscription.active = true ∧
    (subscribed settings 12).inlet.unread (subscribed settings 12).stream ++
      (spell subscribedTalk).drop 12 = spell subscribedTalk ∧
    (subscribedTalk.map Answer.reply).findSome?
      (subscribed settings 12).subscription.handlers.ending? = some (.ok ()) ∧
    ((subscribed settings 12).hear [.deliver ((spell subscribedTalk).drop 12)]).outcome =
      some (.error (.protocol (.tooLarge 8))) :=
  ⟨{ Settings.default with maxFrameSize := 8 }, by decide +kernel⟩

end Connection

end RespLink
