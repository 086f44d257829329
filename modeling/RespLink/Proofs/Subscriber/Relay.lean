import RespLink.Proofs.Connection.Modes
import RespLink.Proofs.Push.Waiting
import RespLink.Proofs.Run
import RespLink.Proofs.Subscriber.Party
import RespLink.Proofs.Subscriber.Readers

/-!
# Relay — a subscription is handed over as it runs

A connection has subscribed, and while messages come somebody takes some of them one by one, or
listens for a while, and then hands the connection over to a subscriber. At that moment bytes may be
buffered that nobody has looked at, whole frames or the beginning of one. A `Relay` is the party
that has the subscription, what is still underway, and the events so far.

Nothing is lost at the hand-over and nothing comes twice: whoever takes them, the events are those
of the frames that were taken, in order (`Relay.Tally`), and in the end they are the events that
listening alone would have reported (`Relay.handing_over_loses_nothing`). A frame that arrives in
pieces must not be longer than the limit, or whoever happens to look at a piece gives it up: that is
the one thing in which the moment matters (`Relay.handing_over_gives_up_pieces`).
-/

namespace RespLink

namespace Handlers

/-- The calls for an event. -/
def callsOf (hs : Handlers) : Event → List Handled
  | .received m => (hs.matching m).map fun h => ⟨h, m⟩
  | .changed _ | .queued _ => []

/-- A reply calls the handlers of its event. -/
theorem calls_eq (hs : Handlers) (r : Reply) : hs.calls r = r.event?.toList.flatMap hs.callsOf := by
  unfold calls Reply.event?
  cases Push.ofReply r with
  | error e => rfl
  | ok push =>
    cases push with
    | acknowledgement kind name count => rfl
    | message m => exact (List.append_nil _).symm
    | pong => rfl

end Handlers

namespace Party

/-- What has arrived and was not read. -/
def unread : Party → Bytes
  | .connection c => c.inlet.unread c.stream
  | .subscriber s => s.inlet.unread s.stream
  | .nobody _ => []

/-- The number of subscriptions, as far as it was published. -/
def count : Party → Int
  | .connection c => c.subscription.count
  | .subscriber s => s.count
  | .nobody _ => 0

/-- The calls of handlers so far. -/
def handled : Party → List Handled
  | .connection c => c.handled
  | .subscriber s => s.handled
  | .nobody _ => []

/-- How the loop has ended, if there is one and it has. -/
def ended? : Party → Option (Except Error Unit)
  | .subscriber s => s.ended
  | .connection _ | .nobody _ => none

/-- Somebody goes on taking the frames of the subscription, and this is what he works on. -/
inductive Attends : Party → Desk → Prop
  | connection {c : Connection} (h : c.Attends) : Attends (.connection c) c.desk
  | subscriber {s : Subscriber} (h : s.Attends) : Attends (.subscriber s) s.desk

theorem Attends.mailbox? {p : Party} {d : Desk} (h : p.Attends d) : p.mailbox? = d.mailbox := by
  cases h with
  | connection h => rfl
  | subscriber h => rfl

end Party

/-- Whoever has a subscription, and what has come of it. -/
structure Relay where
  party : Party
  /-- What the server has sent and has not arrived. -/
  underway : Bytes
  /-- The events so far, each with whether it was reported to handlers and mailbox or else returned
      to somebody who asked for one. -/
  events : List (Event × Bool)

namespace Relay

/-- Something that is done on the way. -/
inductive Leg where
  | deliver (bytes : Bytes)
  /-- An event is asked for. -/
  | nextPush
  /-- The connection listens, at most for so many rounds. -/
  | listen (stop : Connection.Stop) (rounds : Nat) (asked : Bool)
  | handOver
  /-- The loop takes frames, at most so many. -/
  | receive (frames : Nat)
  /-- The mailbox is emptied. -/
  | drain

/-- Whether a leg is one of listening alone. -/
def Leg.isListening : Leg → Bool
  | .deliver _ | .listen _ _ _ | .drain => true
  | .nextPush | .handOver | .receive _ => false

/-- The relay with the connection as it was given, before anything was taken. -/
def start (c : Connection) (underway : Bytes) : Relay := ⟨.connection c, underway, []⟩

/-- The relay after its party has reported to its mailbox, which must not be full then. The new
    events are those at its end. -/
def report? (w : Relay) (p : Party) : Option Relay :=
  match w.party.mailbox?, p.mailbox? with
  | some b, some b' =>
    if b.abandoned = false ∧ b'.waiting.length < b.capacity then
      some { w with
        party := p
        events := w.events ++ (b'.waiting.drop b.waiting.length).map fun e => (e, true) }
    else none
  | _, _ => none

/-- The relay after an event was asked for. If a limit on waiting runs out, the connection is of no
    use any more. -/
def nextPush? (w : Relay) (c : Connection) : Option Relay :=
  match Connection.nextPush c with
  | .ok e c' => some { w with party := .connection c', events := w.events ++ [(e, false)] }
  | .error (.failed (.timeout _)) _ => none
  | .error _ c' => some { w with party := .connection c' }

/-- The party that a connection is handed over to. -/
def successor (c : Connection) : Party :=
  match Subscriber.ofConnection c with
  | .ok s => .subscriber s
  | .error _ => .nobody c.mailbox

def step? (w : Relay) (x : Leg) : Option Relay :=
  match x, w.party with
  | .deliver bytes, p =>
    if bytes.isPrefixOf w.underway then
      some { w with
        party := (p.carry (.peer (.deliver bytes))).2
        underway := w.underway.drop bytes.length }
    else none
  | .nextPush, .connection c => w.nextPush? c
  | .listen stop rounds asked, .connection c =>
    w.report? (.connection ((Connection.listenWithin stop rounds asked).after c))
  | .handOver, .connection c => some { w with party := successor c }
  | .receive frames, .subscriber s => w.report? (.subscriber (s.settleWithin frames))
  | .drain, p => p.mailbox?.map fun b => { w with party := p.withMailbox b.drain.2 }
  | _, _ => none

def run? (w : Relay) : List Leg → Option Relay
  | [] => some w
  | x :: legs =>
    match w.step? x with
    | some w' => w'.run? legs
    | none => none

theorem iterates : Iterates step? run? where
  nil _ := rfl
  cons w x legs := by
    rw [run?]
    cases w.step? x <;> rfl

/-- A reachable connection that is subscribed, and a stream on which the subscription goes on. Some
    of its answers may have arrived already. -/
structure Opens (settings : Settings) (c : Connection) (underway : Bytes) (answers : List Answer) :
    Prop where
  reached : c.Reached settings
  clean : c.taint = none
  active : c.subscription.active = true
  goesOn : c.stream.ended = false
  unread : c.inlet.unread c.stream ++ underway = spell answers

/-- Everything that the server has sent has been taken. -/
def Done (w : Relay) : Prop := w.party.unread ++ w.underway = []

instance (w : Relay) : Decidable w.Done := inferInstanceAs (Decidable (_ = _))

/-! ## What is kept on the way -/

/-- What is known at any time: the first `m` answers were taken, `gone` being their replies, each
    with whether it was reported. -/
structure Kept (limit : Nat) (first : Desk) (answers : List Answer) (w : Relay) (m : Nat)
    (gone : List (Reply × Bool)) (d : Desk) : Prop where
  le : m ≤ answers.length
  replies : gone.map Prod.fst = (answers.take m).map Answer.reply
  attends : w.party.Attends d
  faces : d.inlet.Faces limit w.underway (answers.drop m) d.stream
  subscription :
    d.subscription = (gone.map Prod.fst).foldl (fun s r => (s.apply r).2) first.subscription
  events : w.events = gone.filterMap fun x => x.1.event?.map fun e => (e, x.2)
  handled : d.handled = first.handled ++
    w.events.flatMap fun x => if x.2 then first.subscription.handlers.callsOf x.1 else []

variable {w w' : Relay} {limit : Nat} {first d d' : Desk} {answers : List Answer} {m : Nat}
  {gone : List (Reply × Bool)}

/-- The events of some replies, all of them reported or none. -/
theorem filterMap_flagged (rs : List Reply) (reported : Bool) :
    ((rs.map fun r => (r, reported)).filterMap fun x => x.1.event?.map fun e => (e, x.2)) =
      (rs.filterMap Reply.event?).map fun e => (e, reported) := by
  induction rs with
  | nil => rfl
  | cons r rs ih =>
    rw [List.map_cons, List.filterMap_cons, List.filterMap_cons, ih]
    cases r.event? <;> rfl

theorem calls_flagged (hs : Handlers) (rs : List Reply) (reported : Bool) :
    (((rs.filterMap Reply.event?).map fun e => (e, reported)).flatMap fun x =>
      if x.2 then hs.callsOf x.1 else []) = if reported then rs.flatMap hs.calls else [] := by
  induction rs with
  | nil => cases reported <;> rfl
  | cons r rs ih =>
    rw [List.filterMap_cons, List.flatMap_cons, Handlers.calls_eq]
    cases r.event? <;> cases reported <;> simp_all

/-- After one of the readers took some more. -/
theorem Kept.advance {p : Party} {reported : Bool} {n : Nat}
    (h : w.Kept limit first answers m gone d) (hattends : p.Attends d')
    (htook : d.Took limit w.underway reported (answers.drop m) n d') :
    ∃ gone', Kept limit first answers
      { w with
        party := p
        events := w.events ++ ((((answers.drop m).take n).map Answer.reply).filterMap
          Reply.event?).map fun e => (e, reported) } (m + n) gone' d' := by
  have hsame := htook.same
  have hhandlers : d.subscription.handlers = first.subscription.handlers := by
    rw [h.subscription, Connection.handlers_foldl]
  have htaken : answers.take (m + n) = answers.take m ++ (answers.drop m).take n := List.take_add
  generalize hrs : ((answers.drop m).take n).map Answer.reply = rs at hsame
  refine ⟨gone ++ rs.map fun r => (r, reported), ?_, ?_, hattends, ?_, ?_, ?_, ?_⟩
  · have hle := htook.le
    have hle' := h.le
    rw [List.length_drop] at hle
    omega
  · rw [List.map_append, h.replies, htaken, List.map_append, hrs, List.map_map]
    simp [Function.comp_def]
  · have hfaces := htook.faces
    rw [List.drop_drop] at hfaces
    exact hfaces
  · rw [hsame, List.map_append, List.foldl_append, ← h.subscription, List.map_map]
    simp [Function.comp_def, Desk.hear]
  · rw [List.filterMap_append, ← h.events, filterMap_flagged]
  · rw [hsame, List.flatMap_append, ← List.append_assoc, ← h.handled, calls_flagged, ← hhandlers]
    cases reported
    · exact (List.append_nil _).symm
    · rfl

/-- What is put into a mailbox that is not full is what was reported. -/
theorem Kept.report {p : Party} {n : Nat} (h : w.Kept limit first answers m gone d)
    (hattends : p.Attends d')
    (htook : d.Took limit w.underway true (answers.drop m) n d') (hreport : w.report? p = some w') :
    ∃ gone', Kept limit first answers w' (m + n) gone' d' := by
  unfold report? at hreport
  split at hreport
  · rename_i b b' hb hb'
    split at hreport
    · rename_i hopen
      cases hreport
      rw [h.attends.mailbox?] at hb
      rw [hattends.mailbox?, htook.same] at hb'
      have hfilled : some ((((answers.drop m).take n).map Answer.reply).filterMap
          Reply.event? |>.foldl Mailbox.deliver b) = some b' := by
        rw [← hb']
        simp [Desk.hear, hb]
      rw [Option.some.injEq] at hfilled
      rw [← hfilled] at hopen ⊢
      rw [Mailbox.waiting_foldl_of_room hopen.1 hopen.2, List.drop_left]
      exact h.advance hattends htook
    · cases hreport
  · cases hreport

/-- A connection in push mode can be handed over, and everything that it works on is. -/
theorem attends_successor {c : Connection} (h : c.Attends) :
    (successor c).Attends
      { c.desk with mailbox := some (.empty c.settings.eventCapacity) } := by
  have hhanded : Subscriber.ofConnection c = .ok {
      stream := c.stream
      inlet := c.inlet
      outgoing := c.outgoing
      subscription := c.subscription
      mailbox := Mailbox.empty c.settings.eventCapacity
      handled := c.handled
      count := c.subscription.count
      cancelled := false
      ended := none } := by
    rw [Subscriber.ofConnection, h.clean, h.free.1, h.free.2]
    rfl
  rw [successor, hhanded]
  exact .subscriber ⟨rfl, rfl, rfl⟩

theorem Kept.nextPush {c : Connection} (h : w.Kept limit first answers m gone c.desk)
    (hc : c.Attends) (hanswers : Ongoing limit answers) (hnext : w.nextPush? c = some w') :
    ∃ m' gone' d', w'.Kept limit first answers m' gone' d' := by
  have hends := Connection.nextPushWithin_takes hc h.faces
    (fun a ha => hanswers a (List.mem_of_mem_drop ha)) (c.backlog + 2)
  have hkept {es : List Event} {c' : Connection}
      (hfetched : c.Fetched limit w.underway (answers.drop m) es c') :
      ∃ m' gone' d', Kept limit first answers
        { w with
          party := .connection c'
          events := w.events ++ es.map fun e => (e, false) } m' gone' d' := by
    obtain ⟨hattends, n, htook, rfl⟩ := hfetched
    obtain ⟨gone', hkept⟩ := h.advance (.connection hattends) htook
    exact ⟨_, gone', _, hkept⟩
  have hrun : Connection.nextPush c = Connection.nextPushWithin (c.backlog + 2) c := rfl
  rw [Act.Ends, ← hrun] at hends
  unfold nextPush? at hnext
  split at hnext
  · rename_i e c' hout
    rw [hout] at hends
    cases hnext
    exact hkept hends
  · cases hnext
  · rename_i halt c' hlate hout
    rw [hout] at hends
    cases hnext
    have hnone (hfetched : c.Fetched limit w.underway (answers.drop m) [] c') :
        ∃ m' gone' d', Kept limit first answers { w with party := .connection c' } m' gone' d' := by
      have hsame := hkept hfetched
      rwa [List.map_nil, List.append_nil] at hsame
    cases halt with
    | waiting => exact hnone hends
    | failed e =>
      rcases hends with ⟨span, rfl⟩ | hfetched
      · exact absurd rfl (hlate span)
      · exact hnone hfetched

theorem Kept.deliver {bytes : Bytes} (h : w.Kept limit first answers m gone d)
    (hbytes : bytes <+: w.underway) :
    ∃ d', Kept limit first answers { w with
      party := (w.party.carry (.peer (.deliver bytes))).2
      underway := w.underway.drop bytes.length } m gone d' := by
  have hdeliver {i : Inlet} {s : Stream} (hfaces : i.Faces limit w.underway (answers.drop m) s) :
      i.Faces limit (w.underway.drop bytes.length) (answers.drop m) (s.receive bytes) := by
    obtain ⟨later, hlater⟩ := hbytes
    have horderly : Peer.orderly s.ended [.deliver bytes] = true := by
      rw [hfaces.goesOn]
      rfl
    refine ⟨hfaces.fit.undergo horderly, hfaces.goesOn, ?_⟩
    have hunread := hfaces.unread
    rw [← hlater] at hunread ⊢
    rw [List.drop_left, ← hunread]
    exact (congrArg (· ++ later) (i.unread_undergo s (.deliver bytes))).trans
      (List.append_assoc _ _ _)
  cases w with
  | mk party underway events =>
    cases h.attends with
    | connection hc =>
      exact ⟨_, h.le, h.replies, .connection ⟨hc.clean, hc.connected, hc.active, hc.free⟩,
        hdeliver h.faces, h.subscription, h.events, h.handled⟩
    | subscriber hs =>
      exact ⟨_, h.le, h.replies, .subscriber ⟨hs.alive, hs.wanted, hs.counted⟩,
        hdeliver h.faces, h.subscription, h.events, h.handled⟩

theorem Kept.withMailbox (h : w.Kept limit first answers m gone d) (b : Mailbox) :
    ∃ d', Kept limit first answers { w with party := w.party.withMailbox b } m gone d' := by
  cases w with
  | mk party underway events =>
    cases h.attends with
    | connection hc =>
      exact ⟨_, h.le, h.replies, .connection ⟨hc.clean, hc.connected, hc.active, hc.free⟩, h.faces,
        h.subscription, h.events, h.handled⟩
    | subscriber hs =>
      exact ⟨_, h.le, h.replies, .subscriber ⟨hs.alive, hs.wanted, hs.counted⟩, h.faces,
        h.subscription, h.events, h.handled⟩

theorem Kept.step {x : Leg} (h : w.Kept limit first answers m gone d)
    (hanswers : Ongoing limit answers) (hstep : w.step? x = some w') :
    ∃ m' gone' d', w'.Kept limit first answers m' gone' d' := by
  have hleft : Ongoing limit (answers.drop m) := fun a ha => hanswers a (List.mem_of_mem_drop ha)
  have hattends := h.attends
  unfold step? at hstep
  split at hstep
  · split at hstep
    · rename_i hbytes
      cases hstep
      obtain ⟨d', hkept⟩ := h.deliver (List.isPrefixOf_iff_prefix.mp hbytes)
      exact ⟨m, gone, d', hkept⟩
    · cases hstep
  · rename_i c hparty
    rw [hparty] at hattends
    cases hattends with
    | connection hc => exact h.nextPush hc hanswers hstep
  · rename_i stop rounds asked c hparty
    rw [hparty] at hattends
    cases hattends with
    | connection hc =>
      obtain ⟨hc', n, htook⟩ := Connection.listenWithin_takes hc h.faces hleft stop rounds asked
      obtain ⟨gone', hkept⟩ := h.report (.connection hc') htook hstep
      exact ⟨m + n, gone', _, hkept⟩
  · rename_i c hparty
    rw [hparty] at hattends
    cases hattends with
    | connection hc =>
      cases hstep
      exact ⟨m, gone, _, h.le, h.replies, attends_successor hc, h.faces, h.subscription, h.events,
        h.handled⟩
  · rename_i frames s hparty
    rw [hparty] at hattends
    cases hattends with
    | subscriber hs =>
      obtain ⟨hs', n, htook, -⟩ := Subscriber.settleWithin_takes hs h.faces hleft frames
      obtain ⟨gone', hkept⟩ := h.report (.subscriber hs') htook hstep
      exact ⟨m + n, gone', _, hkept⟩
  · obtain ⟨b, -, rfl⟩ := Option.map_eq_some_iff.mp hstep
    obtain ⟨d', hkept⟩ := h.withMailbox b.drain.2
    exact ⟨m, gone, d', hkept⟩
  · cases hstep

theorem Opens.kept {settings : Settings} {c : Connection} {underway : Bytes}
    (h : Opens settings c underway answers) :
    (start c underway).Kept settings.maxFrameSize c.desk answers 0 [] c.desk := by
  have hsound := h.reached.sound h.clean
  have hmodes : c.Modes := by
    obtain ⟨stream, happenings, -, rfl⟩ := h.reached
    exact (Connection.modes_ofStream stream settings).live happenings
  have hattends := Party.Attends.connection
    ⟨hsound.clean, hsound.connected, h.active, hmodes.apart h.active⟩
  exact ⟨Nat.zero_le _, rfl, hattends, ⟨hsound.wire, h.goesOn, h.unread⟩, rfl, rfl,
    (List.append_nil _).symm⟩

/-! ## What has come of it -/

/-- What has come of the first `m` answers, whoever took them: their events in order, the number of
    subscriptions that they leave, and the calls of handlers for what was reported. Somebody goes on
    with the others. -/
structure Tally (c : Connection) (answers : List Answer) (w : Relay) (m : Nat) : Prop where
  attends : ∃ d, w.party.Attends d
  le : m ≤ answers.length
  left : w.party.unread ++ w.underway = spell (answers.drop m)
  events : w.events.map Prod.fst = ((answers.take m).map Answer.reply).filterMap Reply.event?
  count : w.party.count = (((answers.take m).map Answer.reply).foldl (fun s r => (s.apply r).2)
    c.subscription).count
  handled : w.party.handled = c.handled ++
    w.events.flatMap fun x => if x.2 then c.subscription.handlers.callsOf x.1 else []

theorem map_fst_events (gone : List (Reply × Bool)) :
    (gone.filterMap fun x => x.1.event?.map fun e => (e, x.2)).map Prod.fst =
      (gone.map Prod.fst).filterMap Reply.event? := by
  induction gone with
  | nil => rfl
  | cons x gone ih =>
    rw [List.map_cons, List.filterMap_cons, List.filterMap_cons, ← ih]
    cases x.1.event? <;> rfl

theorem Kept.tally {c : Connection} (h : w.Kept limit c.desk answers m gone d) :
    w.Tally c answers m := by
  have hevents : w.events.map Prod.fst =
      ((answers.take m).map Answer.reply).filterMap Reply.event? := by
    rw [h.events, map_fst_events, h.replies]
  have hsubscription := h.subscription
  rw [h.replies] at hsubscription
  cases w with
  | mk party underway events =>
    cases h.attends with
    | connection hc =>
      exact ⟨⟨_, h.attends⟩, h.le, h.faces.unread, hevents,
        congrArg Subscription.count hsubscription, h.handled⟩
    | subscriber hs =>
      exact ⟨⟨_, h.attends⟩, h.le, h.faces.unread, hevents,
        hs.counted.trans (congrArg Subscription.count hsubscription), h.handled⟩

theorem exists_kept {settings : Settings} {c : Connection} {underway : Bytes} {legs : List Leg}
    (h : Opens settings c underway answers) (hanswers : Ongoing settings.maxFrameSize answers)
    (hrun : (start c underway).run? legs = some w) :
    ∃ m gone d, w.Kept settings.maxFrameSize c.desk answers m gone d :=
  iterates.always (P := fun w => ∃ m gone d, w.Kept settings.maxFrameSize c.desk answers m gone d)
    (fun ⟨_, _, _, hkept⟩ hstep => hkept.step hanswers hstep) ⟨0, [], _, h.kept⟩ hrun

/-- The loop leaves nothing that has arrived. -/
theorem Kept.settle {s : Subscriber} (h : w.Kept limit first answers m gone d)
    (hanswers : Ongoing limit answers) (hparty : w.party = .subscriber s)
    (harrived : w.underway = []) : s.settle.inlet.unread s.settle.stream = [] := by
  have hattends := h.attends
  rw [hparty] at hattends
  cases hattends with
  | subscriber hs =>
    obtain ⟨-, n, htook, hshort⟩ := Subscriber.settleWithin_takes hs h.faces
      (fun a ha => hanswers a (List.mem_of_mem_drop ha))
      (s.inlet.decoder.buffer.length + s.stream.arrived.length + 2)
    have hunread := htook.faces.unread
    rw [harrived, List.append_nil] at hunread
    have hnil := eq_nil_of_short hunread (hshort (by rw [Inlet.unread, List.length_append]; omega))
    rw [hnil] at hunread
    exact hunread

/-- The pushed frames among some answers. -/
def pushes (answers : List Answer) : List Reply :=
  (answers.map Answer.reply).filter fun r => (Push.ofReply r).isOk

theorem filterMap_pushes (answers : List Answer) :
    (answers.map Answer.reply).filterMap Reply.event? =
      (pushes answers).filterMap Reply.event? := by
  induction answers with
  | nil => rfl
  | cons a answers ih =>
    rw [pushes] at ih ⊢
    rw [List.map_cons, List.filterMap_cons, ih, List.filter_cons]
    cases hpush : Push.ofReply a.reply with
    | ok push => rfl
    | error e =>
      rw [Reply.event?_of_error hpush]
      rfl

theorem foldl_pushes (answers : List Answer) (s : Subscription) :
    (answers.map Answer.reply).foldl (fun s r => (s.apply r).2) s =
      (pushes answers).foldl (fun s r => (s.apply r).2) s := by
  induction answers generalizing s with
  | nil => rfl
  | cons a answers ih =>
    rw [pushes] at ih ⊢
    rw [List.map_cons, List.foldl_cons, ih, List.filter_cons]
    cases hpush : Push.ofReply a.reply with
    | ok push => rfl
    | error e =>
      rw [Subscription.apply_of_error hpush]
      rfl

theorem Tally.all {c : Connection} (h : w.Tally c answers m) (hdone : w.Done) :
    w.events.map Prod.fst = (pushes answers).filterMap Reply.event? ∧
      w.party.count = ((pushes answers).foldl (fun s r => (s.apply r).2) c.subscription).count := by
  have hall : answers.take m = answers := by
    cases hdrop : answers.drop m with
    | nil => exact List.take_of_length_le (List.drop_eq_nil_iff.mp hdrop)
    | cons a rest =>
      have hleft := h.left
      rw [show w.party.unread ++ w.underway = [] from hdone, hdrop, spell_cons] at hleft
      exact absurd (List.append_eq_nil_iff.mp hleft.symm).1 a.bytes_ne_nil
  have hevents := h.events
  have hcount := h.count
  rw [hall] at hevents hcount
  rw [hevents, hcount, filterMap_pushes, foldl_pushes]
  exact ⟨rfl, rfl⟩

/-- Who listens reports every event. -/
theorem reported_of_listening {c : Connection} {underway : Bytes} {legs : List Leg}
    (hlistens : ∀ x ∈ legs, x.isListening = true)
    (hrun : (start c underway).run? legs = some w) : ∀ x ∈ w.events, x.2 = true := by
  refine iterates.always_of_allowed (P := fun w => ∀ x ∈ w.events, x.2 = true)
    (fun x : Leg => x.isListening = true) ?_ hlistens (fun _ hx => absurd hx List.not_mem_nil) hrun
  intro w w' x hlistens hall hstep
  have hreport {p : Party} (hreport : w.report? p = some w') : ∀ x ∈ w'.events, x.2 = true := by
    unfold report? at hreport
    split at hreport
    · split at hreport
      · cases hreport
        refine List.forall_mem_append.mpr ⟨hall, fun x hx => ?_⟩
        obtain ⟨e, -, rfl⟩ := List.mem_map.mp hx
        rfl
      · cases hreport
    · cases hreport
  unfold step? at hstep
  split at hstep
  · split at hstep
    · cases hstep
      exact hall
    · cases hstep
  · cases hlistens
  · exact hreport hstep
  · cases hlistens
  · cases hlistens
  · obtain ⟨b, -, rfl⟩ := Option.map_eq_some_iff.mp hstep
    exact hall
  · cases hstep

/-- A connection with the same subscriptions has listened to the same pushed frames, whatever error
    replies came with them and however they arrived, and has done nothing else. -/
inductive Listened (c : Connection) (answers : List Answer) (c' : Connection) (w : Relay) : Prop
  | alone {settings : Settings} {underway : Bytes} {answers' : List Answer} {legs : List Leg}
    (opens : Opens settings c' underway answers')
    (ongoing : Ongoing settings.maxFrameSize answers')
    (run : (start c' underway).run? legs = some w)
    (listens : ∀ x ∈ legs, x.isListening = true) (done : w.Done)
    (subscriptions : c'.subscription = c.subscription) (same : pushes answers' = pushes answers)

/-- However a subscription is passed on, at every moment the frames that were taken have come to
    their events, each once and in order, and somebody goes on with the others; a loop leaves none
    that has arrived. In the end the events and the number of subscriptions are those that listening
    alone comes to, and the handlers were called for every event that was reported as listening
    would have called them. Error replies make no difference. -/
theorem handing_over_loses_nothing {settings : Settings} {c : Connection} {underway : Bytes}
    {answers : List Answer} {legs : List Leg} {w : Relay}
    (hopens : Opens settings c underway answers)
    (hanswers : Ongoing settings.maxFrameSize answers)
    (hrun : (start c underway).run? legs = some w) :
    (∃ m, w.Tally c answers m) ∧
    (∀ s, w.party = .subscriber s → w.underway = [] →
      s.settle.inlet.unread s.settle.stream = []) ∧
    ∀ c' w', w.Done → Listened c answers c' w' →
      w'.events = w.events.map (fun x => (x.1, true)) ∧ w'.party.count = w.party.count ∧
      w'.party.handled = c'.handled ++
        w.events.flatMap fun x => c.subscription.handlers.callsOf x.1 := by
  obtain ⟨m, gone, d, hkept⟩ := exists_kept hopens hanswers hrun
  refine ⟨⟨m, hkept.tally⟩, fun s hparty => hkept.settle hanswers hparty,
    fun c' w' hdone hlistened => ?_⟩
  obtain ⟨hopens', hanswers', hrun', hlistens, hdone', hsame, hpushes⟩ := hlistened
  obtain ⟨m', gone', d', hkept'⟩ := exists_kept hopens' hanswers' hrun'
  obtain ⟨hevents, hcount⟩ := hkept.tally.all hdone
  obtain ⟨hevents', hcount'⟩ := hkept'.tally.all hdone'
  have hreported : w'.events = w.events.map fun x => (x.1, true) := by
    have hflags : w'.events = (w'.events.map Prod.fst).map fun e => (e, true) := by
      rw [List.map_map]
      refine (List.map_id _).symm.trans (List.map_congr_left fun x hx => Prod.ext rfl ?_)
      exact reported_of_listening hlistens hrun' x hx
    rw [hflags, hevents', hpushes, ← hevents, List.map_map]
    rfl
  refine ⟨hreported, ?_, ?_⟩
  · rw [hcount, hcount', hpushes, hsame]
  · rw [hkept'.tally.handled, hreported, hsame, List.flatMap_map]
    rfl

/-- A connection that has subscribed to a channel, with a handler for its messages, and whose events
    are watched. The first `ahead` bytes of what comes next came with the confirmation. -/
def watched (settings : Settings) (talk : List Answer) (ahead : Nat) : Connection :=
  let joined := Answer.ofReply (Broadcast.confirmation "subscribe" [99] 1) rfl
  (Connection.ofStream (Stream.greeting (joined.bytes ++ (spell talk).take ahead)) settings).live
    [.deed (.operate (.onMessage "c" ⟨"tally", false⟩)), .deed (.operate (.subscribe [[99]])),
      .deed (.operate .nextPush), .deed (.operate .watch)]

theorem opens_watched {settings : Settings} {talk : List Answer} {ahead : Nat}
    (h : (watched settings talk ahead).taint = none ∧
      (watched settings talk ahead).subscription.active = true ∧
      (watched settings talk ahead).stream.ended = false ∧
      (watched settings talk ahead).inlet.unread (watched settings talk ahead).stream ++
        (spell talk).drop ahead = spell talk) :
    Opens settings (watched settings talk ahead) ((spell talk).drop ahead) talk :=
  ⟨⟨_, _, rfl, rfl⟩, h.1, h.2.1, h.2.2.1, h.2.2.2⟩

theorem read_refusal : Reply.read (Reply.error "NOPERM no permission").frame =
    .ok (.error "NOPERM no permission", []) :=
  rfl

/-- Two messages. Between them a request is turned down, another is granted, and a ping is answered.
    -/
def chatter : List Answer :=
  [.ofReply (.array [.bulk (Text.toBytes "message"), .bulk [99], .bulk [33]]) rfl,
    .ofReply (.error "NOPERM no permission") read_refusal,
    .ofReply (Broadcast.confirmation "psubscribe" [99, 42] 2) rfl,
    .ofReply (.array [.bulk (Text.toBytes "pong"), .bulk []]) rfl,
    .ofReply (.array [.bulk (Text.toBytes "message"), .bulk [99], .bulk [63]]) rfl]

/-- The same without what was turned down. -/
def calm : List Answer := chatter.eraseIdx 1

/-- An event is asked for and does not come, it comes with the beginning of the next frame, and the
    connection is handed over. -/
def midway : List Leg :=
  [.nextPush, .deliver (((spell chatter).drop 20).take 15), .nextPush, .handOver,
    .deliver ((spell chatter).drop 35), .receive 9]

theorem handing_over_loses_nothing_midway : ∃ w w',
    (start (watched Settings.default chatter 20) ((spell chatter).drop 20)).run? midway = some w ∧
    (start (watched Settings.default calm 3) ((spell calm).drop 3)).run?
      [.deliver ((spell calm).drop 3), .listen .never 9 false] = some w' ∧
    w.events.map Prod.snd = [false, true, true] ∧
    w'.events = w.events.map (fun x => (x.1, true)) ∧ w'.party.count = 2 := by
  have hend : ((start (watched Settings.default chatter 20) ((spell chatter).drop 20)).run?
      midway).map (fun w => (w.events.map Prod.snd, w.party.count, decide w.Done)) =
      some ([false, true, true], 2, true) := by
    decide +kernel
  have hend' : ((start (watched Settings.default calm 3) ((spell calm).drop 3)).run?
      [.deliver ((spell calm).drop 3), .listen .never 9 false]).map (fun w => decide w.Done) =
      some true := by
    decide +kernel
  obtain ⟨w, hrun, hw⟩ := Option.map_eq_some_iff.mp hend
  obtain ⟨w', hrun', hdone'⟩ := Option.map_eq_some_iff.mp hend'
  simp only [Prod.mk.injEq, decide_eq_true_eq] at hw hdone'
  obtain ⟨hflags, hcount, hdone⟩ := hw
  have hlistened : Listened (watched Settings.default chatter 20) chatter
      (watched Settings.default calm 3) w' :=
    .alone (opens_watched (by decide +kernel)) (by decide +kernel) hrun' (by decide) hdone'
      (by decide +kernel) (by decide +kernel)
  obtain ⟨-, -, hlistening⟩ := handing_over_loses_nothing (opens_watched (by decide +kernel))
    (by decide +kernel) hrun
  obtain ⟨hevents, hsubscribed, -⟩ := hlistening _ w' hdone hlistened
  exact ⟨w, w', hrun, hrun', hflags, hevents, hsubscribed.trans hcount⟩

/-- The same connection with a limit of eight bytes. Listening takes the message if it is there as a
    whole; but twelve bytes of it had come when the connection was handed over, and the loop gives
    it up. -/
theorem handing_over_gives_up_pieces : ∃ settings : Settings, settings.check = .ok () ∧
    Opens settings (watched settings calm 12) ((spell calm).drop 12) calm ∧
    Opens settings (watched settings calm 0) (spell calm) calm ∧
    (watched settings calm 0).subscription = (watched settings calm 12).subscription ∧
    (∀ a ∈ calm, a.reply.goesOn = true) ∧
    ((start (watched settings calm 0) (spell calm)).run?
      [.deliver (spell calm), .listen .never 9 false]).map (fun w => w.events.length) = some 3 ∧
    ((start (watched settings calm 12) ((spell calm).drop 12)).run?
      [.handOver, .deliver ((spell calm).drop 12), .receive 9]).map (fun w =>
        (w.events.length, w.party.ended?)) =
      some (0, some (.error (.protocol (.tooLarge 8)))) := by
  refine ⟨{ Settings.default with maxFrameSize := 8 }, by decide +kernel,
    opens_watched (by decide +kernel), opens_watched (by decide +kernel), ?_⟩
  decide +kernel

end Relay

end RespLink
