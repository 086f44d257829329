import RespLink.Proofs.Push.Waiting
import RespLink.Proofs.Subscriber.Party

/-!
# Reception — whoever receives the events changes nothing

A connection reports events to a receiver that may be there or not, read them at once, late or
never, and leave; so does the subscriber to which the connection is handed over. A `Reception` is
such a party together with its receiver. It is followed through a run in which things are done with
the one, bytes come, and the receiver does as it likes in between, also between two frames of one
listening.

What the receiver does cannot be told from anything else (`Reception.Alike`): two runs in which the
same is done and the same comes end alike, though their receivers come and go at different times and
have different room (`Reception.same_for_all_receivers`). And a receiver gets what it is due: of the
events since it came, those that found room, in their order (`Reception.Fair`).

Which events those are is not for the receiver to say, nor for the mailbox. They are the events of
what was read (`Party.events`): the words for commands that were queued, and the pushed frames that
somebody listened to.
-/

namespace RespLink

/-! ## Receivers -/

/-- What a receiver does. -/
inductive Pull where
  /-- It comes, in place of the one that was there. Only a connection can be asked for that. -/
  | watch
  /-- It takes the oldest event, if there is one. -/
  | take
  | drain
  | leave

/-- A party, and whoever receives its events. -/
structure Reception where
  party : Party
  /-- What came of all that was done. -/
  upshots : List Upshot
  /-- All events so far. -/
  produced : List Event
  /-- What the receiver has taken. -/
  obtained : List Event
  /-- The events since it came, each with the number of those that waited when it was produced. -/
  seen : List (Nat × Event)

namespace Reception

/-- After a turn that produced some events. -/
def turn (w : Reception) (x : Turn) (es : List Event) : Reception where
  party := (w.party.carry x).2
  upshots := w.upshots ++ [(w.party.carry x).1]
  produced := w.produced ++ es
  obtained := w.obtained
  seen := w.seen ++ w.party.mailbox?.elim [] fun b => b.moments es

/-- After the connection was handed over to a subscriber, whose events go to a new receiver. -/
def handOver (w : Reception) : Reception :=
  match w.party with
  | .connection c =>
    match Subscriber.ofConnection c with
    | .ok s =>
      { w with
        party := .subscriber s
        upshots := w.upshots ++ [.handedOver (.ok ())]
        obtained := []
        seen := [] }
    | .error e =>
      { w with party := .nobody c.mailbox, upshots := w.upshots ++ [.handedOver (.error e)] }
  | _ => w

/-- After the receiver did something. -/
def pull (w : Reception) : Pull → Reception
  | .watch =>
    match w.party with
    | .connection c => { w with party := .connection c.watch, obtained := [], seen := [] }
    | _ => w
  | .take =>
    match w.party.mailbox?.bind Mailbox.take? with
    | some (e, b) => { w with party := w.party.withMailbox b, obtained := w.obtained ++ [e] }
    | none => w
  | .drain =>
    match w.party.mailbox? with
    | some b =>
      { w with party := w.party.withMailbox b.drain.2, obtained := w.obtained ++ b.drain.1 }
    | none => w
  | .leave =>
    match w.party.mailbox? with
    | some b => { w with party := w.party.withMailbox b.abandon }
    | none => w

end Reception

/-- Something that happens to a party and its receiver. -/
inductive Incident where
  | turn (x : Turn)
  | handOver
  | pull (x : Pull)

/-- Whether something is not the receiver's doing. -/
def Incident.isOthers : Incident → Bool
  | .pull _ => false
  | .turn _ | .handOver => true

namespace Reception

/-- After something has happened. -/
def happen (w : Reception) : Incident → Reception
  | .turn x => w.turn x (w.party.events x)
  | .handOver => w.handOver
  | .pull x => w.pull x

/-- After one thing after the other. -/
def through (w : Reception) (incidents : List Incident) : Reception := incidents.foldl happen w

end Reception

/-! ## Nothing depends on the receiver -/

namespace Reception

/-- Receptions that differ in nothing but the receiver. -/
structure Alike (w v : Reception) : Prop where
  party : w.party.bare = v.party.bare
  upshots : w.upshots = v.upshots
  produced : w.produced = v.produced

namespace Alike

variable {w v : Reception}

theorem turn (h : w.Alike v) (x : Turn) :
    (w.turn x (w.party.events x)).Alike (v.turn x (v.party.events x)) := by
  obtain ⟨hsame, hbare, -⟩ := Party.carry_alike h.party x
  refine ⟨hbare, ?_, ?_⟩
  · show w.upshots ++ [(w.party.carry x).1] = v.upshots ++ [(v.party.carry x).1]
    rw [h.upshots, hsame]
  · show w.produced ++ w.party.events x = v.produced ++ v.party.events x
    rw [h.produced, Party.events_of_bare h.party]

theorem pull (h : w.Alike v) (x : Pull) : (w.pull x).Alike v := by
  cases x with
  | watch =>
    unfold Reception.pull
    dsimp only
    split
    · rename_i c hc
      refine ⟨?_, h.upshots, h.produced⟩
      rw [← h.party, hc]
      rfl
    · exact h
  | take | drain | leave =>
    unfold Reception.pull
    dsimp only
    split
    · exact ⟨(Party.bare_withMailbox _ _).trans h.party, h.upshots, h.produced⟩
    · exact h

theorem handOver (h : w.Alike v) : w.handOver.Alike v.handOver := by
  obtain ⟨party, upshots, produced, obtained, seen⟩ := w
  obtain ⟨party', upshots', produced', obtained', seen'⟩ := v
  obtain ⟨hparty, rfl, rfl⟩ := h
  cases Party.fitted_of_bare hparty with
  | connection c mailbox capacity =>
    simp only [Reception.handOver, Subscriber.ofConnection_fitted]
    cases Subscriber.ofConnection c with
    | ok s => exact ⟨rfl, rfl, rfl⟩
    | error e => exact ⟨rfl, rfl, rfl⟩
  | subscriber s b => exact ⟨hparty, rfl, rfl⟩
  | nobody => exact ⟨hparty, rfl, rfl⟩

end Alike

variable {w : Reception}

/-- A run ends like one in which the receiver does nothing. -/
theorem Alike.through {v : Reception} (h : w.Alike v) (incidents : List Incident) :
    (w.through incidents).Alike (v.through (incidents.filter Incident.isOthers)) := by
  induction incidents generalizing w v with
  | nil => exact h
  | cons incident rest ih =>
    cases incident with
    | turn x => exact ih (h.turn x)
    | handOver => exact ih h.handOver
    | pull x => exact ih (h.pull x)

end Reception

/-! ## What a receiver gets -/

namespace Reception

open Mailbox (admitted)

/-- The receiver gets what it is due: of the events since it came, those that found room. -/
structure Fair (w : Reception) (capacity : Nat) : Prop where
  since : w.seen.map Prod.snd <:+ w.produced
  alone : w.party.mailbox? = none → w.seen = [] ∧ w.obtained = []
  roomToCome : ∀ k, w.party.capacity? = some k → k = capacity
  serves : ∀ b, w.party.mailbox? = some b → b.Serves capacity w.obtained (admitted capacity w.seen)

variable {w : Reception} {capacity : Nat}

namespace Fair

theorem turn (h : w.Fair capacity) (x : Turn) :
    (w.turn x (w.party.events x)).Fair capacity := by
  have hafter := w.party.mailbox?_carry x
  have hcapacity (k : Nat) (hk : (w.party.carry x).2.capacity? = some k) : k = capacity :=
    h.roomToCome k ((w.party.capacity?_carry x).symm.trans hk)
  cases hmailbox : w.party.mailbox? with
  | none =>
    rw [hmailbox] at hafter
    obtain ⟨hseen, hobtained⟩ := h.alone hmailbox
    have hsilent : (w.turn x (w.party.events x)).seen = [] := by
      rw [Reception.turn, hmailbox, hseen]
      rfl
    refine ⟨?_, fun _ => ⟨hsilent, hobtained⟩, hcapacity, fun b hb => ?_⟩
    · rw [hsilent]
      exact List.nil_suffix
    · cases hafter.symm.trans hb
  | some b =>
    rw [hmailbox] at hafter
    have hseen : (w.turn x (w.party.events x)).seen =
        w.seen ++ b.moments (w.party.events x) := by
      rw [Reception.turn, hmailbox]
      rfl
    refine ⟨?_, fun hnone => ?_, hcapacity, fun b' hb' => ?_⟩
    · obtain ⟨before, hbefore⟩ := h.since
      refine ⟨before, ?_⟩
      rw [hseen, List.map_append, Mailbox.map_snd_moments, ← List.append_assoc, hbefore]
      rfl
    · cases hafter.symm.trans hnone
    · cases hafter.symm.trans hb'
      rw [hseen, Mailbox.admitted_append]
      exact (h.serves b hmailbox).deliver _

/-- A new receiver has seen nothing. -/
theorem renew {p : Party} (hmailbox : p.mailbox? = some (.empty capacity))
    (hroom : ∀ k, p.capacity? = some k → k = capacity) (upshots : List Upshot)
    (produced : List Event) : Fair ⟨p, upshots, produced, [], []⟩ capacity := by
  refine ⟨List.nil_suffix, fun hnone => ?_, hroom, fun b hb => ?_⟩
  · cases hmailbox.symm.trans hnone
  · cases hmailbox.symm.trans hb
    exact .of_empty capacity

/-- The receiver does something with its mailbox. -/
theorem reach {b : Mailbox} {obtained : List Event} (h : w.Fair capacity)
    (hserves : b.Serves capacity obtained (admitted capacity w.seen)) :
    Fair { w with party := w.party.withMailbox b, obtained } capacity := by
  refine ⟨h.since, fun hnone => ?_, fun k hk => h.roomToCome k ?_, fun b' hb' => ?_⟩
  · cases (Party.mailbox?_withMailbox w.party b).symm.trans hnone
  · rw [← Party.capacity?_withMailbox w.party b]
    exact hk
  · cases (Party.mailbox?_withMailbox w.party b).symm.trans hb'
    exact hserves

theorem pull (h : w.Fair capacity) (x : Pull) : (w.pull x).Fair capacity := by
  cases x with
  | watch =>
    unfold Reception.pull
    dsimp only
    split
    · rename_i c hc
      have hroom : c.settings.eventCapacity = capacity := h.roomToCome _ (by rw [hc]; rfl)
      refine .renew (by rw [← hroom]; rfl) (fun k hk => ?_) _ _
      cases hk
      exact hroom
    · exact h
  | take =>
    unfold Reception.pull
    dsimp only
    split
    · rename_i e b htake
      obtain ⟨b₀, hb₀, htake⟩ := Option.bind_eq_some_iff.mp htake
      exact h.reach ((h.serves b₀ hb₀).take htake)
    · exact h
  | drain =>
    unfold Reception.pull
    dsimp only
    split
    · rename_i b hb
      exact h.reach (h.serves b hb).drain
    · exact h
  | leave =>
    unfold Reception.pull
    dsimp only
    split
    · rename_i b hb
      exact h.reach (h.serves b hb).abandon
    · exact h

theorem handOver (h : w.Fair capacity) : w.handOver.Fair capacity := by
  unfold Reception.handOver
  split
  · rename_i c hc
    have hroom : c.settings.eventCapacity = capacity := h.roomToCome _ (by rw [hc]; rfl)
    split
    · rename_i s hs
      refine .renew ?_ (fun k hk => ?_) _ _
      · rw [← hroom]
        exact congrArg some (Subscriber.mailbox_of_ofConnection hs)
      · cases hk
    · have hmailbox : w.party.mailbox? = c.mailbox := by rw [hc]; rfl
      refine ⟨h.since, fun hnone => h.alone (hmailbox.trans hnone), fun k hk => ?_, fun b hb => ?_⟩
      · cases hk
      · exact h.serves b (hmailbox.trans hb)
  · exact h

end Fair

theorem Fair.through (h : w.Fair capacity) (incidents : List Incident) :
    (w.through incidents).Fair capacity := by
  induction incidents generalizing w with
  | nil => exact h
  | cons incident rest ih =>
    cases incident with
    | turn x => exact ih (h.turn x)
    | handOver => exact ih h.handOver
    | pull x => exact ih (h.pull x)

end Reception

/-! ## From the opening on -/

/-- How a connection is opened. -/
inductive Approach where
  /-- Over a stream that is open already. -/
  | direct (stream : Stream)
  | dial (network : Network)

/-- What comes of opening a connection. -/
def Approach.opening (settings : Settings) : Approach → Opening
  | .direct stream => .opened (Connection.ofStream stream settings)
  | .dial network => Connection.connect settings network

/-- The settings with room for so many events. -/
def Settings.withRoom (settings : Settings) (capacity : Nat) : Settings :=
  { settings with eventCapacity := capacity }

/-- The same with no mailbox and room for so many events in those to come. -/
def Opening.fitted (capacity : Nat) : Opening → Opening
  | .unopened e => .unopened e
  | .turnedAway halt c => .turnedAway halt (c.fitted none capacity)
  | .opened c => .opened (c.fitted none capacity)

theorem Settings.dial_withRoom {settings : Settings} {capacity : Nat} (h : 0 < capacity)
    (network : Network) :
    (settings.withRoom capacity).dial network = (settings.withRoom 1).dial network := by
  have hcheck : (settings.withRoom capacity).check = (settings.withRoom 1).check := by
    unfold check withRoom
    dsimp only
    rw [if_neg (Nat.ne_of_gt h), if_neg Nat.one_ne_zero]
  rw [dial, hcheck, dial]

/-- How opening a connection ends does not depend on the room for events, if there is any. -/
theorem Approach.exists_opening (approach : Approach) (settings : Settings) :
    ∃ o : Opening, ∀ capacity, 0 < capacity →
      approach.opening (settings.withRoom capacity) = o.fitted capacity := by
  cases approach with
  | direct stream => exact ⟨.opened (Connection.ofStream stream settings), fun _ _ => rfl⟩
  | dial network =>
    cases hdial : (settings.withRoom 1).dial network with
    | error e =>
      refine ⟨.unopened e, fun capacity h => ?_⟩
      simp only [opening, Connection.connect, Settings.dial_withRoom h, hdial, Opening.fitted]
    | ok stream =>
      have hauthenticate (capacity : Nat) :
          Connection.authenticate (Connection.ofStream stream (settings.withRoom capacity)) =
            Act.refit none capacity
              (Connection.authenticate (Connection.ofStream stream settings)) := by
        exact Connection.authenticate_quiet (c := Connection.ofStream stream settings) none capacity
      cases hrun : Connection.authenticate (Connection.ofStream stream settings) with
      | ok _ c =>
        refine ⟨.opened c, fun capacity h => ?_⟩
        simp only [opening, Connection.connect, Settings.dial_withRoom h, hdial, Opening.fitted,
          EStateM.run, hauthenticate, hrun, Act.refit]
      | error halt c =>
        refine ⟨.turnedAway halt c, fun capacity h => ?_⟩
        simp only [opening, Connection.connect, Settings.dial_withRoom h, hdial, Opening.fitted,
          EStateM.run, hauthenticate, hrun, Act.refit]

namespace Reception

/-- What there is after a connection was opened, or was not. -/
def ofOpening : Opening → Reception
  | .unopened e => ⟨.nobody none, [.opened (.error (.failed e))], [], [], []⟩
  | .turnedAway halt _ => ⟨.nobody none, [.opened (.error halt)], [], [], []⟩
  | .opened c => ⟨.connection c, [.opened (.ok ())], [], [], []⟩

/-- A connection that was opened just now, with room for so many events. -/
def start (approach : Approach) (settings : Settings) (capacity : Nat) : Reception :=
  ofOpening (approach.opening (settings.withRoom capacity))

theorem fair_ofOpening (o : Opening) (capacity : Nat) :
    (ofOpening (o.fitted capacity)).Fair capacity := by
  cases o with
  | unopened e | turnedAway halt c =>
    refine ⟨List.nil_suffix, fun _ => ⟨rfl, rfl⟩, fun k hk => ?_, fun b hb => ?_⟩
    · cases hk
    · cases hb
  | opened c =>
    refine ⟨List.nil_suffix, fun _ => ⟨rfl, rfl⟩, fun k hk => ?_, fun b hb => ?_⟩
    · cases hk
      rfl
    · cases hb

theorem alike_ofOpening (o : Opening) (capacity capacity' : Nat) :
    (ofOpening (o.fitted capacity)).Alike (ofOpening (o.fitted capacity')) := by
  cases o <;> exact ⟨rfl, rfl, rfl⟩

/-- Where the same is done and the same comes, the receiver makes no difference: what comes of it,
    what is left of the connection or subscriber, the calls of handlers, the bytes that were sent
    and the events of what was read are the same, whenever a receiver comes, reads or leaves and
    whatever room it has. The receiver gets those of the events since it came that were produced
    while fewer than it has room for were waiting, in their order. -/
theorem same_for_all_receivers {approach : Approach} {settings : Settings} {k₁ k₂ : Nat}
    {incidents₁ incidents₂ : List Incident} (h₁ : 0 < k₁) (h₂ : 0 < k₂)
    (hsame : incidents₁.filter Incident.isOthers = incidents₂.filter Incident.isOthers) :
    let w₁ := (start approach settings k₁).through incidents₁
    let w₂ := (start approach settings k₂).through incidents₂
    w₁.Alike w₂ ∧ w₁.Fair k₁ ∧ w₂.Fair k₂ := by
  intro w₁ w₂
  obtain ⟨o, ho⟩ := approach.exists_opening settings
  have hstart₁ : start approach settings k₁ = ofOpening (o.fitted k₁) :=
    congrArg ofOpening (ho k₁ h₁)
  have hstart₂ : start approach settings k₂ = ofOpening (o.fitted k₂) :=
    congrArg ofOpening (ho k₂ h₂)
  -- both are compared with the run in which nobody receives anything
  have halike₁ := (alike_ofOpening o k₁ k₂).through incidents₁
  have halike₂ := (alike_ofOpening o k₂ k₂).through incidents₂
  rw [← hstart₁, ← hstart₂, hsame] at halike₁
  rw [← hstart₂] at halike₂
  refine ⟨⟨?_, ?_, ?_⟩, ?_, ?_⟩
  · exact halike₁.party.trans halike₂.party.symm
  · exact halike₁.upshots.trans halike₂.upshots.symm
  · exact halike₁.produced.trans halike₂.produced.symm
  · exact (hstart₁ ▸ fair_ofOpening o k₁).through incidents₁
  · exact (hstart₂ ▸ fair_ofOpening o k₂).through incidents₂

/-- Somebody queues a command, subscribes, listens for two frames and hands the connection over to a
    subscriber, whose loop takes two more. One receiver is there from the beginning and has room for
    one event: it misses the first message, which comes before it has taken the acknowledgement.
    Another comes between these two and misses nothing that comes later, but the last event comes
    after its successor has left. -/
theorem same_for_all_receivers_latecomer :
    let pushed (word : String) (last : Reply) : Bytes :=
      (Reply.array [.bulk (Text.toBytes word), .bulk [121], last]).frame
    let stream := Stream.greeting ((Reply.status "OK").frame ++ (Reply.status "QUEUED").frame ++
      (Reply.array []).frame ++ pushed "subscribe" (.integer 1) ++ pushed "message" (.bulk [97]) ++
      pushed "message" (.bulk [98]) ++ pushed "unsubscribe" (.integer 0))
    let queue := Incident.turn (.chore (.operate (.queue Catalog.ping.command) (by simp)))
    let exec := Incident.turn (.chore (.exec ⟨1⟩))
    let subscribe := Incident.turn (.chore (.operate (.subscribe [[121]]) (by simp)))
    let round := Incident.turn (.chore (.listenRound .never false))
    let receive := Incident.turn (.bidding (.receive 1))
    let early := [.pull .watch, .turn (.chore .multi), queue, exec, subscribe, .pull .take, round,
      round, .pull .take]
    let late := [.turn (.chore .multi), queue, exec, subscribe, round, .pull .watch, round,
      .pull .drain]
    let v₁ := (start (.direct stream) Settings.default 1).through early
    let v₂ := (start (.direct stream) Settings.default 4).through late
    let w₁ := (start (.direct stream) Settings.default 1).through
      (early ++ [.handOver, receive, .pull .take, receive])
    let w₂ := (start (.direct stream) Settings.default 4).through
      (late ++ [.handOver, receive, .pull .take, .pull .leave, receive])
    let joined := Event.changed ⟨.subscribe, some "y", none, 1⟩
    let left := Event.changed ⟨.unsubscribe, some "y", none, 0⟩
    let a := Event.received ⟨"y", none, [97]⟩
    let b := Event.received ⟨"y", none, [98]⟩
    w₁.produced = [.queued "QUEUED", joined, a, b, left] ∧
    v₁.obtained = [.queued "QUEUED", joined] ∧ v₂.obtained = [a] ∧
    w₁.obtained = [b] ∧ w₁.party.mailbox? = some ⟨1, [left], false⟩ ∧
    w₂.obtained = [b] ∧ w₂.party.mailbox? = some ⟨4, [], true⟩ ∧
    w₁.Alike w₂ ∧ w₁.Fair 1 ∧ w₂.Fair 4 := by
  intro pushed stream queue exec subscribe round receive early late v₁ v₂ w₁ w₂ joined left a b
  refine ⟨by decide +kernel, by decide +kernel, by decide +kernel, by decide +kernel,
    by decide +kernel, by decide +kernel, by decide +kernel, ?_⟩
  exact same_for_all_receivers Nat.one_pos (Nat.succ_pos 3) rfl

end Reception

end RespLink
