import RespLink.Proofs.Connection.Contact
import RespLink.Proofs.Connection.Telling
import RespLink.Proofs.Subscriber.Loop

/-!
# Parties — a connection, and the subscriber it is handed over to

Whoever has the stream is a `Party`: at first a connection, and a subscriber once the connection was
handed over. Things are done with it and bytes come, one `Turn` after the other, and each turn has
its `Upshot`.

The events of a turn are those of the frames that it takes (`Party.events`), and they are put into
the mailbox, if there is one. That is all that a turn has to do with a mailbox. `Party.carry_alike`
says so of all turns at once: whatever mailbox there is, the upshot is the same, what is left is the
same, and the mailbox was told of the events of the turn.
-/

namespace RespLink

/-! ## What is done -/

/-- Something that is done on a connection, except asking for its events. -/
inductive Chore where
  | operate (o : Operation) (other : o ≠ .watch)
  | multi
  | exec (t : Transaction)
  | discard (t : Transaction)
  | listenRound (stop : Connection.Stop) (asked : Bool)

namespace Chore

/-- What a chore answers with if it succeeds. -/
def Answer : Chore → Type
  | .operate o _ => o.Answer
  | .multi => Transaction
  | .exec _ => Option (List Reply)
  | .discard _ => Unit
  | .listenRound _ _ => Option Bool

def act : (x : Chore) → Act x.Answer
  | .operate o _ => o.act
  | .multi => Connection.multi
  | .exec t => t.exec
  | .discard t => t.discard
  | .listenRound stop asked => Connection.listenRound stop asked

/-- The events of a chore: what the frames are worth that it takes. -/
def events : Chore → Connection → List Event
  | .operate o _, c => o.events c
  | .listenRound stop asked, c =>
    ((Connection.listenRound stop asked).taken c).filterMap Reply.event?
  | .multi, _ | .exec _, _ | .discard _, _ => []

end Chore

/-- Something that is done on a subscriber. -/
inductive Bidding where
  | transmit (command : Command)
  | onMessage (name : String) (h : Handler)
  | removeHandler (name : String)
  /-- The loop takes frames, at most so many. -/
  | receive (frames : Nat)
  | shutDown

namespace Bidding

def Answer : Bidding → Type
  | .transmit _ => Except Error Unit
  | .removeHandler _ => Bool
  | .shutDown => Except Error Unit
  | .onMessage _ _ | .receive _ => Unit

/-- Whether something could be done, and the subscriber afterwards. -/
def attempted (s : Subscriber) : Except Error Subscriber → Except Error Unit × Subscriber
  | .ok s' => (.ok (), s')
  | .error e => (.error e, s)

/-- What a bidding is answered with, and the subscriber afterwards. -/
def carry (s : Subscriber) : (x : Bidding) → x.Answer × Subscriber
  | .transmit command => attempted s (s.transmit command)
  | .onMessage name h => ((), s.onMessage name h)
  | .removeHandler name => (s.subscription.handlers.has name, s.removeHandler name)
  | .receive frames => ((), Subscriber.settleWithin frames s)
  | .shutDown => s.shutDown

/-- The events of a bidding: what the frames are worth that the loop takes. -/
def events : Bidding → Subscriber → List Event
  | .receive frames, s =>
    let s' := s.settleWithin frames
    (Reply.framesBetween (s.inlet.unread s.stream) (s'.inlet.unread s'.stream)).filterMap
      Reply.event?
  | _, _ => []

end Bidding

/-- Something that happens to a connection or a subscriber. -/
inductive Turn where
  | chore (x : Chore)
  | bidding (x : Bidding)
  | peer (p : Peer)

/-- What came of it. -/
inductive Upshot where
  | opened (outcome : Except Halt Unit)
  | chore (x : Chore) (outcome : Except Halt x.Answer)
  | bidding (x : Bidding) (answer : x.Answer)
  | handedOver (outcome : Except Error Unit)
  | nothing

/-- Whoever has the stream. -/
inductive Party where
  | connection (c : Connection)
  | subscriber (s : Subscriber)
  /-- It was given up, and what waited for a receiver still waits. -/
  | nobody (mailbox : Option Mailbox)

/-- The subscriber with another mailbox. -/
def Subscriber.withMailbox (s : Subscriber) (b : Mailbox) : Subscriber := { s with mailbox := b }

namespace Party

/-- Where the events go, if anybody wants them. -/
def mailbox? : Party → Option Mailbox
  | .connection c => c.mailbox
  | .subscriber s => some s.mailbox
  | .nobody mailbox => mailbox

/-- How much room a mailbox to come will have. -/
def capacity? : Party → Option Nat
  | .connection c => some c.settings.eventCapacity
  | .subscriber _ | .nobody _ => none

/-- The party with another mailbox. -/
def withMailbox (b : Mailbox) : Party → Party
  | .connection c => .connection { c with mailbox := some b }
  | .subscriber s => .subscriber (s.withMailbox b)
  | .nobody _ => .nobody (some b)

/-- All but the mailbox, and the capacity for those to come. -/
def bare : Party → Party
  | .connection c => .connection (c.fitted none 0)
  | .subscriber s => .subscriber (s.withMailbox (Mailbox.empty 0))
  | .nobody _ => .nobody none

/-- What comes of a turn, and the party afterwards. What is asked of somebody else does not
    happen. -/
def carry : Party → Turn → Upshot × Party
  | .connection c, .chore x => (.chore x (x.act.outcome c), .connection (x.act.after c))
  | .subscriber s, .bidding x => (.bidding x (x.carry s).1, .subscriber (x.carry s).2)
  | .connection c, .peer p => (.nothing, .connection { c with stream := c.stream.undergo p })
  | .subscriber s, .peer p => (.nothing, .subscriber { s with stream := s.stream.undergo p })
  | p, _ => (.nothing, p)

/-- The events of a turn: what was read in it and is worth one. -/
def events : Party → Turn → List Event
  | .connection c, .chore x => x.events c
  | .subscriber s, .bidding x => x.events s
  | _, _ => []

end Party

/-! ## Nothing depends on the mailbox -/

theorem Connection.eq_fitted_of_bare {c c' : Connection}
    (h : c'.fitted none 0 = c.fitted none 0) :
    c' = c.fitted c'.mailbox c'.settings.eventCapacity := by
  show (c'.fitted none 0).fitted c'.mailbox c'.settings.eventCapacity = _
  rw [h]
  rfl

theorem Chore.act_reports (x : Chore) (c : Connection) : x.act.Reports c (x.events c) := by
  cases x with
  | operate o other => exact o.act_reports other c
  | multi => exact Connection.multi_quiet
  | exec t => exact Connection.execute_quiet _
  | discard t => exact Connection.discard_quiet _
  | listenRound stop asked => exact (Connection.listenRound_tells stop asked).reports

/-- Who receives the events of a chore makes no difference to what they are. -/
theorem Chore.events_fitted (x : Chore) (c : Connection) (mailbox : Option Mailbox)
    (capacity : Nat) : x.events (c.fitted mailbox capacity) = x.events c :=
  (x.act_reports _).unique ((x.act_reports c).fitted mailbox capacity)

namespace Subscriber

variable {s : Subscriber}

/-- What happens to a subscriber reports these events, whoever receives them. -/
def Reports (f : Subscriber → Subscriber) (s : Subscriber) (es : List Event) : Prop :=
  ∀ b : Mailbox, f (s.withMailbox b) = (f s).withMailbox (es.foldl Mailbox.deliver b)

theorem receive_reports (s : Subscriber) (r : Reply) :
    Reports (receive · r) s r.event?.toList := by
  intro b
  show (s.withMailbox b).receive r = (s.receive r).withMailbox _
  cases hpush : Push.ofReply r with
  | ok push =>
    rw [receive_of_ok hpush, receive_of_ok hpush, Reply.event?_of_ok hpush]
    rfl
  | error e =>
    rw [receive_of_error hpush, receive_of_error hpush, Reply.event?_of_error hpush]
    rfl

theorem unread_receive (s : Subscriber) (r : Reply) :
    (s.receive r).inlet.unread (s.receive r).stream = s.inlet.unread s.stream := by
  cases hpush : Push.ofReply r with
  | ok push => rw [receive_of_ok hpush]
  | error e => rw [receive_of_error hpush]

/-- The loop takes some answers and reports the events that they are worth. -/
theorem settleWithin_tells (fuel : Nat) (s : Subscriber) : ∃ answers : List Answer,
    s.inlet.unread s.stream = spell answers ++
      (s.settleWithin fuel).inlet.unread (s.settleWithin fuel).stream ∧
    Reports (settleWithin fuel) s ((answers.map Answer.reply).filterMap Reply.event?) := by
  induction fuel generalizing s with
  | zero => exact ⟨[], rfl, fun _ => rfl⟩
  | succ fuel ih =>
    unfold Reports withMailbox
    simp only [settleWithin]
    split
    · exact ⟨[], rfl, fun _ => rfl⟩
    split
    · exact ⟨[], rfl, fun _ => rfl⟩
    have hlooked := s.inlet.next_looked s.stream
    generalize s.inlet.next s.stream = found at hlooked
    obtain ⟨intake, inlet, stream⟩ := found
    cases intake with
    | frame r =>
      obtain ⟨used, hunread, hread⟩ := Reply.read_steady.front (hlooked.frame r rfl)
      have hfirst := receive_reports { s with inlet, stream } r
      obtain ⟨further, hfurther, hmore⟩ := ih ({ s with inlet, stream }.receive r)
      rw [unread_receive] at hfurther
      refine ⟨⟨r, used, hread⟩ :: further, ?_, fun b => ?_⟩
      · rw [hunread, spell_cons, List.append_assoc]
        exact congrArg (used ++ ·) hfurther
      · have hone : ({ s with inlet, stream }.withMailbox b).receive r = _ := hfirst b
        show settleWithin fuel (({ s with inlet, stream }.withMailbox b).receive r) = _
        rw [hone, hmore, ← List.foldl_append]
        cases hevent : r.event? <;> simp [hevent, withMailbox]
    | failure e => exact ⟨[], (hlooked.other (by simp)).symm, fun _ => rfl⟩
    | finished => exact ⟨[], (hlooked.other (by simp)).symm, fun _ => rfl⟩
    | pending => exact ⟨[], (hlooked.other (by simp)).symm, fun _ => rfl⟩

theorem settleWithin_reports (s : Subscriber) (frames : Nat) :
    Reports (settleWithin frames) s ((Bidding.receive frames).events s) := by
  obtain ⟨answers, hunread, hreports⟩ := s.settleWithin_tells frames
  have hevents : (Bidding.receive frames).events s =
      (answers.map Answer.reply).filterMap Reply.event? := by
    rw [Bidding.events, hunread, Reply.framesBetween_spell]
  rw [hevents]
  exact hreports

theorem transmit_withMailbox (s : Subscriber) (b : Mailbox) (command : Command) :
    (s.withMailbox b).transmit command = (s.transmit command).map (withMailbox · b) := by
  unfold transmit isRunning withMailbox
  dsimp only
  split
  · rfl
  split
  · rfl
  · cases s.stream.send (s.outgoing ++ command.encode) <;> rfl

theorem ofConnection_fitted (c : Connection) (mailbox : Option Mailbox) (capacity : Nat) :
    ofConnection (c.fitted mailbox capacity) =
      (ofConnection c).map (withMailbox · (Mailbox.empty capacity)) := by
  unfold ofConnection Connection.fitted
  dsimp only
  split
  · rfl
  split <;> rfl

theorem mailbox_of_ofConnection {c : Connection} {s : Subscriber} (h : ofConnection c = .ok s) :
    s.mailbox = .empty c.settings.eventCapacity := by
  obtain ⟨-, rfl⟩ := ofConnection_ok h
  rfl

end Subscriber

theorem Bidding.carry_reports (x : Bidding) (s : Subscriber) (b : Mailbox) :
    x.carry (s.withMailbox b) =
      ((x.carry s).1, (x.carry s).2.withMailbox ((x.events s).foldl Mailbox.deliver b)) := by
  cases x with
  | transmit command =>
    show attempted (s.withMailbox b) ((s.withMailbox b).transmit command) =
      ((attempted s (s.transmit command)).1, (attempted s (s.transmit command)).2.withMailbox b)
    rw [Subscriber.transmit_withMailbox]
    cases s.transmit command <;> rfl
  | onMessage name h => rfl
  | removeHandler name => rfl
  | receive frames => exact congrArg (Prod.mk ()) (s.settleWithin_reports frames b)
  | shutDown => rfl

/-- Who receives the events of a bidding makes no difference to what they are. -/
theorem Bidding.events_withMailbox (x : Bidding) (s : Subscriber) (b : Mailbox) :
    x.events (s.withMailbox b) = x.events s := by
  cases x with
  | receive frames =>
    rw [events, events, s.settleWithin_reports frames b]
    rfl
  | _ => rfl

namespace Party

/-- Parties that differ in nothing but the mailbox. -/
inductive Fitted : Party → Party → Prop
  | connection (c : Connection) (mailbox : Option Mailbox) (capacity : Nat) :
    Fitted (.connection c) (.connection (c.fitted mailbox capacity))
  | subscriber (s : Subscriber) (b : Mailbox) :
    Fitted (.subscriber s) (.subscriber (s.withMailbox b))
  | nobody (mailbox mailbox' : Option Mailbox) : Fitted (.nobody mailbox) (.nobody mailbox')

theorem fitted_of_bare {p q : Party} (h : q.bare = p.bare) : Fitted p q := by
  cases p with
  | connection c =>
    cases q with
    | connection c' =>
      rw [Connection.eq_fitted_of_bare (Party.connection.inj h)]
      exact .connection c _ _
    | subscriber s => cases h
    | nobody mailbox => cases h
  | subscriber s =>
    cases q with
    | connection c => cases h
    | subscriber s' =>
      have hsame : s'.withMailbox (Mailbox.empty 0) = s.withMailbox (Mailbox.empty 0) :=
        Party.subscriber.inj h
      have hs : s' = s.withMailbox s'.mailbox := by
        show (s'.withMailbox (Mailbox.empty 0)).withMailbox s'.mailbox = _
        rw [hsame]
        rfl
      rw [hs]
      exact .subscriber s _
    | nobody mailbox => cases h
  | nobody mailbox =>
    cases q with
    | connection c => cases h
    | subscriber s => cases h
    | nobody mailbox' => exact .nobody _ _

/-- Who receives the events of a turn makes no difference to what they are. -/
theorem events_of_bare {p q : Party} (h : q.bare = p.bare) (x : Turn) :
    q.events x = p.events x := by
  cases fitted_of_bare h with
  | connection c mailbox capacity =>
    cases x with
    | chore x => exact x.events_fitted c mailbox capacity
    | bidding x => rfl
    | peer p => rfl
  | subscriber s b =>
    cases x with
    | bidding x => exact x.events_withMailbox s b
    | chore x => rfl
    | peer p => rfl
  | nobody mailbox mailbox' => rfl

/-- A turn comes to the same whatever mailbox there is, and its events are put into it. -/
theorem carry_alike {p q : Party} (h : q.bare = p.bare) (x : Turn) :
    (q.carry x).1 = (p.carry x).1 ∧ (q.carry x).2.bare = (p.carry x).2.bare ∧
    ((q.carry x).2.mailbox? = q.mailbox?.map fun b => (p.events x).foldl Mailbox.deliver b) ∧
    (q.carry x).2.capacity? = q.capacity? := by
  have hnone (mailbox : Option Mailbox) :
      mailbox = mailbox.map fun b => List.foldl Mailbox.deliver b [] := by
    cases mailbox <;> rfl
  cases fitted_of_bare h with
  | connection c mailbox capacity =>
    cases x with
    | chore x =>
      have hreports := x.act_reports c
      simp only [carry, hreports.outcome_eq, hreports.after_eq]
      exact ⟨trivial, rfl, rfl, rfl⟩
    | bidding x => exact ⟨rfl, rfl, hnone _, rfl⟩
    | peer p => exact ⟨rfl, rfl, hnone _, rfl⟩
  | subscriber s b =>
    cases x with
    | bidding x =>
      simp only [carry, x.carry_reports s b]
      exact ⟨trivial, rfl, rfl, rfl⟩
    | chore x => exact ⟨rfl, rfl, hnone _, rfl⟩
    | peer p => exact ⟨rfl, rfl, hnone _, rfl⟩
  | nobody mailbox mailbox' =>
    cases x <;> exact ⟨rfl, rfl, hnone _, rfl⟩

/-- The events of a turn are put into the mailbox of the party, if it has one. -/
theorem mailbox?_carry (p : Party) (x : Turn) :
    (p.carry x).2.mailbox? = p.mailbox?.map fun b => (p.events x).foldl Mailbox.deliver b :=
  (carry_alike rfl x).2.2.1

theorem capacity?_carry (p : Party) (x : Turn) : (p.carry x).2.capacity? = p.capacity? :=
  (carry_alike rfl x).2.2.2

@[simp] theorem capacity?_withMailbox (p : Party) (b : Mailbox) :
    (p.withMailbox b).capacity? = p.capacity? := by
  cases p <;> rfl

@[simp] theorem bare_withMailbox (p : Party) (b : Mailbox) : (p.withMailbox b).bare = p.bare := by
  cases p <;> rfl

@[simp] theorem mailbox?_withMailbox (p : Party) (b : Mailbox) :
    (p.withMailbox b).mailbox? = some b := by
  cases p <;> rfl

end Party

end RespLink
