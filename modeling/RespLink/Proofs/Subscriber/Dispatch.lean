import RespLink.Proofs.Push.Grammar
import RespLink.Proofs.Subscriber.Calling
import RespLink.Proofs.Subscriber.Reception

/-!
# Dispatch — who is called for a message

Handlers come and go while a connection is used, while it listens, and after it was handed over to a
subscriber. All the time its table has followed the registrations that were made
(`Enrolled.follows`), so a message calls the handlers that it concerns, and they are called when it
is read and at no other time.

Each of them is called once, with one exception that nobody would want. A message that came through
a pattern which is spelled like its channel goes by one name, but the table is asked for the channel
and for the pattern, and the handler of that name is called twice (`called_twice_for_namesake`).
-/

namespace RespLink

/-- A party with its receiver has come about from a connection as it was opened, and these
    registrations were made on the way. What it reported and who received it does not matter. -/
inductive Enrolled : Reception → List Registration → Prop
  | opened {w : Reception} {c : Connection} (hopened : Connection.Opened c)
      (hparty : w.party = .connection c) : Enrolled w []
  | turn {w : Reception} {history : List Registration} (x : Turn) (es : List Event)
      (h : Enrolled w history) : Enrolled (w.turn x es) (history ++ w.party.registrations x)
  | handOver {w : Reception} {history : List Registration} (h : Enrolled w history) :
      Enrolled w.handOver history
  | pull {w : Reception} {history : List Registration} (x : Pull) (h : Enrolled w history) :
      Enrolled (w.pull x) history

/-- A party in push mode takes a frame: it is the next that a connection gets as it listens, or that
    the loop of a subscriber gets, and the party is then as it is after it has dealt with it. -/
inductive Party.Hears : Party → Reply → Party → Prop
  | listening {c : Connection} {r : Reply} (stop : Connection.Stop)
      (hactive : c.subscription.active = true) (hclean : c.taint = none)
      (hnext : (c.inlet.next c.stream).1 = .frame r) :
      Hears (.connection c) r (.connection ((Connection.listenRound stop false).after c))
  | receiving {s : Subscriber} {r : Reply} (hrunning : s.ended = none)
      (hwanted : s.cancelled = false) (hnext : (s.inlet.next s.stream).1 = .frame r) :
      Hears (.subscriber s) r (.subscriber (s.settleWithin 1))

/-! ## The table -/

theorem Connection.Opened.handlers {c : Connection} (h : Connection.Opened c) :
    c.subscription.handlers = Handlers.none := by
  cases h with
  | direct stream settings => rfl
  | @dialed settings network _ h =>
    unfold connect at h
    split at h
    · cases h
    · rename_i stream hdial
      have hstart : Tends Handlers.none [] (ofStream stream settings) := ⟨rfl, [], rfl⟩
      have hauthenticate : authenticate.Leaves (ofStream stream settings)
          (Tends Handlers.none []) := by
        refine .get ?_
        split
        · exact .seq (call_tends _ _ hstart) fun _ _ => .pure
        · exact .pure hstart
      split at h
      · rename_i hrun
        cases h
        exact (hauthenticate.ok_of_run hrun).handlers
      · cases h

namespace Reception

variable {w : Reception} {history : List Registration}

/-- The table of a party has followed a history. Where the stream was given up there is none. -/
def Follows (w : Reception) (history : List Registration) : Prop :=
  ∀ hs, w.party.handlers? = some hs → hs.Follows history

theorem Follows.same {w' : Reception} (h : w.Follows history)
    (hsame : w'.party.handlers? = w.party.handlers?) : w'.Follows history := by
  intro hs hhs
  exact h hs (hsame ▸ hhs)

theorem Follows.turn (h : w.Follows history) (x : Turn) (es : List Event) :
    (w.turn x es).Follows (history ++ w.party.registrations x) := by
  intro hs' hhs'
  cases hhs : w.party.handlers? with
  | some hs =>
    have hafter := (Party.carry_tends hhs x).1
    obtain rfl := Option.some.inj (hafter.symm.trans hhs')
    exact (h hs hhs).enrolAll _
  | none =>
    obtain ⟨mailbox, hparty⟩ := Party.exists_of_handlers?_eq_none hhs
    have hgone : (w.turn x es).party = .nobody mailbox := by
      show (w.party.carry x).2 = _
      rw [hparty, Party.carry_nobody]
    rw [hgone] at hhs'
    cases hhs'

theorem Follows.handOver (h : w.Follows history) : w.handOver.Follows history := by
  unfold Reception.handOver
  cases hparty : w.party with
  | connection c =>
    dsimp only
    cases hover : Subscriber.ofConnection c with
    | ok s =>
      obtain ⟨-, rfl⟩ := Subscriber.ofConnection_ok hover
      refine h.same ?_
      rw [hparty]
      rfl
    | error e =>
      intro hs hhs
      cases hhs
  | subscriber s => exact h
  | nobody mailbox => exact h

theorem handlers?_withMailbox (p : Party) (b : Mailbox) :
    (p.withMailbox b).handlers? = p.handlers? := by
  cases p <;> rfl

theorem Follows.pull (h : w.Follows history) (x : Pull) : (w.pull x).Follows history := by
  cases x with
  | watch =>
    unfold Reception.pull
    cases hparty : w.party with
    | connection c =>
      refine h.same ?_
      rw [hparty]
      rfl
    | subscriber s => exact h
    | nobody mailbox => exact h
  | take | drain | leave =>
    unfold Reception.pull
    dsimp only
    split
    · exact h.same (handlers?_withMailbox _ _)
    · exact h

end Reception

theorem Enrolled.follows {w : Reception} {history : List Registration} (h : Enrolled w history) :
    w.Follows history := by
  induction h with
  | @opened w c hopened hparty =>
    intro hs hhs
    rw [hparty] at hhs
    obtain rfl := Option.some.inj hhs
    rw [hopened.handlers]
    exact Handlers.follows_none
  | turn x es _ ih => exact ih.turn x es
  | handOver _ ih => exact ih.handOver
  | pull x _ ih => exact ih.pull x

/-! ## One frame -/

/-- A round of listening that takes a frame calls the handlers for it. -/
theorem Connection.handled_listenRound {c : Connection} {r : Reply} (stop : Stop)
    (hactive : c.subscription.active = true) (hclean : c.taint = none)
    (hnext : (c.inlet.next c.stream).1 = .frame r) :
    ((listenRound stop false).after c).handled =
      c.handled ++ c.subscription.handlers.calls r := by
  have hround : (listenRound stop false).Ends c
      (fun _ c' => c'.handled = c.handled ++ c.subscription.handlers.calls r)
      (fun _ c' => c'.handled = c.handled ++ c.subscription.handlers.calls r) fun _ => False := by
    refine .get ?_
    rw [hactive]
    refine .usable hclean (.bind (.get ?_))
    generalize c.inlet.next c.stream = found at hnext
    obtain ⟨intake, inlet, stream⟩ := found
    obtain rfl : intake = .frame r := hnext
    have hheard : ({ c with inlet, stream }.hearing [r]).handled =
        c.handled ++ c.subscription.handlers.calls r := by
      simp [hearing]
    refine .bind (.set (.pure ?_))
    cases hpush : Push.ofReply r with
    | ok push => exact hears_push hpush (.pure hheard)
    | error e => exact hears_fault hpush hheard
  exact hround.leaves (fun _ _ h => h) (fun _ _ h => h) fun _ h => h.elim

theorem Subscriber.handled_settleWithin_one {s : Subscriber} {r : Reply} (hrunning : s.ended = none)
    (hwanted : s.cancelled = false) (hnext : (s.inlet.next s.stream).1 = .frame r) :
    (s.settleWithin 1).handled = s.handled ++ s.subscription.handlers.calls r := by
  rw [settleWithin, if_neg (by simp [hrunning]), if_neg (by simp [hwanted])]
  generalize s.inlet.next s.stream = found at hnext
  obtain ⟨intake, inlet, stream⟩ := found
  obtain rfl : intake = .frame r := hnext
  exact handled_receive { s with inlet, stream } r

/-- Whoever takes a frame calls the handlers that its table has for it. -/
theorem Party.Hears.handled {p p' : Party} {r : Reply} (h : p.Hears r p') :
    ∃ hs, p.handlers? = some hs ∧ p'.handled = p.handled ++ hs.calls r := by
  cases h with
  | listening stop hactive hclean hnext =>
    exact ⟨_, rfl, Connection.handled_listenRound stop hactive hclean hnext⟩
  | receiving hrunning hwanted hnext =>
    exact ⟨_, rfl, Subscriber.handled_settleWithin_one hrunning hwanted hnext⟩

/-- The calls that a message is due: one of each handler that it concerns. -/
def due (history : List Registration) (m : Message) : List Handled :=
  (concerned history m).map fun h => ⟨h, m⟩

theorem Handlers.calls_of_message {hs : Handlers} {history : List Registration}
    (h : hs.Follows history) {r : Reply} {m : Message} (hspells : Push.Spells r (.message m)) :
    hs.calls r = if m.pattern = some m.channel then due history m ++ due history m
      else due history m := by
  have hcalls : hs.calls r = (hs.matching m).map fun h => ⟨h, m⟩ := by
    rw [calls, Push.ofReply_eq_ok_iff.mpr hspells]
    rfl
  rw [hcalls, matching_of_follows h]
  split
  · exact List.map_append
  · rfl

theorem Handlers.calls_of_no_message (hs : Handlers) {r : Reply}
    (h : ∀ m, ¬ Push.Spells r (.message m)) : hs.calls r = [] := by
  unfold calls
  split
  · rename_i m hpush
    exact absurd (Push.ofReply_eq_ok_iff.mp hpush) (h m)
  · rfl

/-- What is called for events is concerned by their messages. -/
theorem Handlers.Follows.concerns {hs : Handlers} {history : List Registration}
    (h : hs.Follows history) {es : List Event} {call : Handled}
    (hcall : call ∈ es.flatMap hs.callsOf) : call ∈ due history call.message := by
  obtain ⟨e, -, hcall⟩ := List.mem_flatMap.mp hcall
  cases e with
  | received m =>
    obtain ⟨handler, hmatching, rfl⟩ := List.mem_map.mp hcall
    exact List.mem_map.mpr ⟨handler, mem_concerned_of_matching h hmatching, rfl⟩
  | changed change => cases hcall
  | queued status => cases hcall

/-- Whatever turn is taken, nobody is called but for a message that concerns him. -/
theorem Reception.Follows.carry {w : Reception} {history : List Registration}
    (h : w.Follows history) (x : Turn) :
    ∃ calls, (w.party.carry x).2.handled = w.party.handled ++ calls ∧
      ∀ call ∈ calls, call ∈ due (history ++ w.party.registrations x) call.message := by
  cases hhs : w.party.handlers? with
  | some hs =>
    obtain ⟨-, es, hcalls⟩ := Party.carry_tends hhs x
    have hfollows := (h hs hhs).enrolAll (w.party.registrations x)
    exact ⟨_, hcalls, fun call hcall => hfollows.concerns hcall⟩
  | none =>
    obtain ⟨mailbox, hparty⟩ := Party.exists_of_handlers?_eq_none hhs
    refine ⟨[], ?_, by simp⟩
    rw [hparty, Party.carry_nobody, List.append_nil]

/-! ## Every message -/

/-- After any registrations and removals, whatever else is done in between, and before or after the
    connection is handed over: a message that is heard in push mode calls the handler that stands
    under its channel and the one that stands under its pattern, each once, and nobody else,
    provided that its pattern is not spelled like its channel. Frames that are no messages call
    nobody. And whatever turn is taken, nobody is called but for a message that concerns him. -/
theorem called_once_for_each_name {w : Reception} {history : List Registration}
    (h : Enrolled w history) :
    (∀ r p' m, w.party.Hears r p' → Push.Spells r (.message m) → m.pattern ≠ some m.channel →
      p'.handled = w.party.handled ++ due history m) ∧
    (∀ r p', w.party.Hears r p' → (∀ m, ¬ Push.Spells r (.message m)) →
      p'.handled = w.party.handled) ∧
    ∀ x : Turn, ∃ calls, (w.party.carry x).2.handled = w.party.handled ++ calls ∧
      ∀ call ∈ calls, call ∈ due (history ++ w.party.registrations x) call.message := by
  refine ⟨?_, ?_, h.follows.carry⟩
  · intro r p' m hhears hspells hnames
    obtain ⟨hs, hhs, hcalls⟩ := hhears.handled
    rw [hcalls, Handlers.calls_of_message (h.follows hs hhs) hspells, if_neg hnames]
  · intro r p' hhears hother
    obtain ⟨hs, hhs, hcalls⟩ := hhears.handled
    rw [hcalls, hs.calls_of_no_message hother, List.append_nil]

/-! ## Two receptions -/

/-- A pushed frame of some words. -/
def pushed (items : List String) : Reply := .array (items.map fun s => .bulk (Text.toBytes s))

/-- The acknowledgement of a first pattern. -/
def joined (pattern : String) : Reply :=
  .array [.bulk (Text.toBytes "psubscribe"), .bulk (Text.toBytes pattern), .integer 1]

namespace Reception

/-- A connection that somebody has just been given, over which some frames have come. -/
def greeted (frames : List Reply) : Reception where
  party := .connection (.ofStream (.greeting (frames.flatMap Reply.frame)) Settings.default)
  upshots := []
  produced := []
  obtained := []
  seen := []

/-- After the connection was asked something. -/
def asked (w : Reception) (o : Operation) (h : o ≠ .watch) : Reception :=
  w.turn (.chore (.operate o h)) []

/-- After one round of listening. -/
def listened (w : Reception) : Reception := w.turn (.chore (.listenRound .never false)) []

end Reception

theorem enrolled_greeted (frames : List Reply) : Enrolled (Reception.greeted frames) [] :=
  .opened (.direct _ _) rfl

/-- A name loses its handler and gets another, and a pattern gets one. Then the pattern is
    subscribed to, and the acknowledgement is taken. -/
def expectant : Reception :=
  (Reception.greeted [joined "n*", pushed ["pmessage", "n*", "news", "hi"]]
    |>.asked (.onMessage "news" ⟨"old", false⟩) (by decide)
    |>.asked (.onMessage "n*" ⟨"all", false⟩) (by decide)
    |>.asked (.removeHandler "news") (by decide)
    |>.asked (.onMessage "news" ⟨"new", false⟩) (by decide)
    |>.asked (.psubscribe [Text.toBytes "n*"]) (by decide)).listened

/-- The message comes through the pattern, and both handlers are called. -/
theorem called_once_for_each_name_expectant :
    Enrolled expectant [⟨"news", some ⟨"old", false⟩⟩, ⟨"n*", some ⟨"all", false⟩⟩, ⟨"news", none⟩,
      ⟨"news", some ⟨"new", false⟩⟩] ∧
    expectant.party.Hears (pushed ["pmessage", "n*", "news", "hi"]) expectant.listened.party ∧
    expectant.listened.party.handled = [⟨⟨"new", false⟩, ⟨"news", some "n*", [104, 105]⟩⟩,
      ⟨⟨"all", false⟩, ⟨"news", some "n*", [104, 105]⟩⟩] := by
  have henrolled : Enrolled expectant [⟨"news", some ⟨"old", false⟩⟩,
      ⟨"n*", some ⟨"all", false⟩⟩, ⟨"news", none⟩, ⟨"news", some ⟨"new", false⟩⟩] :=
    ((((((enrolled_greeted _).turn _ _).turn _ _).turn _ _).turn _ _).turn _ _).turn _ _
  have hhears : expectant.party.Hears (pushed ["pmessage", "n*", "news", "hi"])
      expectant.listened.party :=
    .listening .never (by decide +kernel) (by decide +kernel) (by decide +kernel)
  have hspells : Push.Spells (pushed ["pmessage", "n*", "news", "hi"])
      (.message ⟨"news", some "n*", [104, 105]⟩) := Push.ofReply_eq_ok_iff.mp (by decide +kernel)
  have hcalled := (called_once_for_each_name henrolled).1 _ _ _ hhears hspells (by decide)
  refine ⟨henrolled, hhears, hcalled.trans ?_⟩
  decide +kernel

/-- A handler stands under a name, and the name is subscribed to as a pattern. -/
def namesake : Reception :=
  (Reception.greeted [joined "n", pushed ["pmessage", "n", "n", "hi"]]
    |>.asked (.onMessage "n" ⟨"x", false⟩) (by decide)
    |>.asked (.psubscribe [Text.toBytes "n"]) (by decide)).listened

/-- The message is due one call, for it goes by one name. The handler is called twice. -/
theorem called_twice_for_namesake :
    Enrolled namesake [⟨"n", some ⟨"x", false⟩⟩] ∧
    namesake.party.Hears (pushed ["pmessage", "n", "n", "hi"]) namesake.listened.party ∧
    Push.Spells (pushed ["pmessage", "n", "n", "hi"]) (.message ⟨"n", some "n", [104, 105]⟩) ∧
    due [⟨"n", some ⟨"x", false⟩⟩] ⟨"n", some "n", [104, 105]⟩ =
      [⟨⟨"x", false⟩, ⟨"n", some "n", [104, 105]⟩⟩] ∧
    namesake.party.handled = [] ∧
    namesake.listened.party.handled = [⟨⟨"x", false⟩, ⟨"n", some "n", [104, 105]⟩⟩,
      ⟨⟨"x", false⟩, ⟨"n", some "n", [104, 105]⟩⟩] := by
  have henrolled : Enrolled namesake [⟨"n", some ⟨"x", false⟩⟩] :=
    (((enrolled_greeted _).turn _ _).turn _ _).turn _ _
  have hhears : namesake.party.Hears (pushed ["pmessage", "n", "n", "hi"])
      namesake.listened.party :=
    .listening .never (by decide +kernel) (by decide +kernel) (by decide +kernel)
  refine ⟨henrolled, hhears, Push.ofReply_eq_ok_iff.mp (by decide +kernel), ?_⟩
  decide +kernel

end RespLink
