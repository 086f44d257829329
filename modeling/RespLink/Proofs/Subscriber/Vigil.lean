import RespLink.Proofs.Run
import RespLink.Proofs.Subscriber.Loop

/-!
# Vigil — what the loop of a subscriber outlives

While the loop of a subscriber takes what comes, anybody may ask the server for a change of the
subscriptions or for a sign of life. The loop is to go on through all of that: before anything is
subscribed, while the answers to several requests are underway, and after the last subscription has
gone, for there may be a next one. It is over when it is told to stop, when the stream ends or when
what comes is no frame that it can take.

There is one request that it does not outlive. As long as anything is subscribed a server answers a
ping with a pushed frame; while nothing is, it answers with a status, as it would anybody else, and
to the loop a status is no pushed frame. So a ping ends the loop if the server comes to it while
nothing is subscribed. `loop_endures` says that nothing else that is asked does, and
`idle_ping_ends_loop` is the shortest vigil that ends so.
-/

namespace RespLink

/-- What is asked of a server while a loop takes the answers. -/
inductive Query where
  | change (ch : Change)
  | ping

/-- The command that asks it. -/
def Query.command : Query → Command
  | .change ch => ch.command
  | .ping => Catalog.ping.command

/-- What a server says to a ping of a client that has subscribed to nothing. -/
def Reply.idlePong : Reply := .status "PONG"

/-- A subscriber, the server it asks, and what passes between them. -/
structure Vigil where
  subscriber : Subscriber
  /-- What was asked and the server has not come to. -/
  asked : List Query
  /-- What the change that the server came to last is still to be acknowledged with. -/
  due : List Nat
  /-- What is subscribed, as the server keeps it. -/
  audience : Audience
  /-- What the server has said that was not read when the vigil began. -/
  answers : List Answer
  /-- What of that has not arrived yet. -/
  underway : Bytes
  /-- The pings that the server came to while nothing was subscribed. -/
  idlePings : Nat

namespace Vigil

/-- Something that happens during a vigil. -/
inductive Occasion where
  /-- The subscriber is told to ask. -/
  | ask (q : Query)
  /-- The server comes to the next change. -/
  | change
  /-- It acknowledges the next name. -/
  | acknowledge (a : Answer)
  /-- It comes to the next ping and answers it. -/
  | pong (a : Answer)
  /-- It passes a message on. -/
  | publish (a : Answer)
  | peer (p : Peer)
  /-- The loop takes frames, at most so many. -/
  | receive (frames : Nat)
  | shutDown

/-- The vigil after the server has said one thing more. -/
def say (v : Vigil) (a : Answer) : Vigil :=
  { v with answers := v.answers ++ [a], underway := v.underway ++ a.bytes }

/-- What is still underway after the peer did something, if that is possible: it delivers what the
    server has said, and nothing after it has ended its direction. -/
def remaining? (v : Vigil) : Peer → Option Bytes
  | .deliver bytes =>
    if bytes.isPrefixOf v.underway ∧ v.subscriber.stream.ended = false then
      some (v.underway.drop bytes.length)
    else none
  | .finish | .sever => some v.underway

/-- The vigil after the server came to the next request, a ping, and answered it. -/
def pong? (v : Vigil) (a : Answer) : Option Vigil :=
  match v.asked, v.due with
  | .ping :: rest, [] =>
    if 0 < v.audience.size then
      if Push.ofReply a.reply = .ok .pong then some { v.say a with asked := rest } else none
    else if a.reply = .idlePong then
      some { v.say a with asked := rest, idlePings := v.idlePings + 1 }
    else none
  | _, _ => none

def step? (v : Vigil) : Occasion → Option Vigil
  | .ask q =>
    match v.subscriber.transmit q.command with
    | .ok subscriber => some { v with subscriber, asked := v.asked ++ [q] }
    | .error _ => some v
  | .change =>
    match v.asked, v.due with
    | .change ch :: rest, [] =>
      some { v with
        asked := rest
        due := (v.audience.change ch).1
        audience := (v.audience.change ch).2 }
    | _, _ => none
  | .acknowledge a =>
    if a.reply.count? = v.due.head? ∧ a.reply.count?.isSome then
      some { v.say a with due := v.due.tail }
    else none
  | .pong a => v.pong? a
  | .publish a => if a.reply.isMessage then some (v.say a) else none
  | .peer p =>
    (v.remaining? p).map fun underway =>
      { v with
        subscriber := { v.subscriber with stream := v.subscriber.stream.undergo p }
        underway }
  | .receive frames => some { v with subscriber := v.subscriber.settleWithin frames }
  | .shutDown => some { v with subscriber := v.subscriber.shutDown.2 }

def run? (v : Vigil) : List Occasion → Option Vigil
  | [] => some v
  | x :: occasions =>
    match v.step? x with
    | some v' => v'.run? occasions
    | none => none

theorem iterates : Iterates step? run? where
  nil _ := rfl
  cons v x occasions := by
    rw [run?]
    cases v.step? x <;> rfl

/-- A vigil begins when a connection is handed over. What the server has yet to answer, what it has
    subscribed the client to and which pushed frames are on their way does not matter. -/
structure Begins (settings : Settings) (v : Vigil) : Prop where
  handed : ∃ c : Connection, c.Reached settings ∧ Subscriber.ofConnection c = .ok v.subscriber
  unread : v.subscriber.inlet.unread v.subscriber.stream ++ v.underway = spell v.answers
  pushed : ∀ a ∈ v.answers, ∃ push, Push.ofReply a.reply = .ok push
  awake : v.idlePings = 0

end Vigil

/-! ## The fate of the loop -/

namespace Subscriber

/-- How a loop that `answers` were said to has ended. -/
inductive Ending (limit : Nat) (answers : List Answer) (s : Subscriber) : Prop
  /-- It was told to stop. -/
  | stopped (unwanted : s.cancelled = true) (how : s.ended = some (.ok ()))
  | closed (final : s.stream.ended = true) (how : s.ended = some (.error .connectionClosed))
  | cutOff (final : s.stream.ended = true) (how : s.ended = some (.error (.io .cutOff)))
  | tooLarge (a : Answer) (said : a ∈ answers) (long : limit < a.bytes.length)
    (how : s.ended = some (.error (.protocol (.tooLarge limit))))
  /-- It has read the answer to an idle ping. -/
  | misread (read left : List Answer) (a : Answer) (parts : answers = read ++ a :: left)
    (clean : ∀ b ∈ read, b.reply ≠ .idlePong) (idle : a.reply = .idlePong)
    (how : s.ended = some (.error (.unexpectedReply .pushArray .status)))

/-- What has become of a loop, `underway` being the bytes of the answers that have not arrived. -/
inductive Fate (limit : Nat) (answers : List Answer) (underway : Bytes) (s : Subscriber) : Prop
  /-- It goes on, and none of the frames that it has read was the answer to an idle ping. -/
  | running (read left : List Answer) (parts : answers = read ++ left)
    (alive : s.ended = none) (wanted : s.cancelled = false) (fit : s.inlet.Fit limit s.stream)
    (unread : s.inlet.unread s.stream ++ underway = spell left)
    (clean : ∀ a ∈ read, a.reply ≠ .idlePong)
  | ended (how : s.Ending limit answers)

/-- What a server says to a subscriber: pushed frames, and the answers to idle pings. -/
def Spoken (answers : List Answer) : Prop :=
  ∀ a ∈ answers, (∃ push, Push.ofReply a.reply = .ok push) ∨ a.reply = .idlePong

variable {s s' : Subscriber} {limit : Nat} {answers answers' : List Answer} {underway : Bytes}

theorem Ending.isSome_ended (h : s.Ending limit answers) : s.ended.isSome := by
  cases h with
  | stopped unwanted how => rw [how]; rfl
  | closed final how => rw [how]; rfl
  | cutOff final how => rw [how]; rfl
  | tooLarge a said long how => rw [how]; rfl
  | misread read left a parts clean idle how => rw [how]; rfl

/-- What has ended stays so, whatever is said and done afterwards. -/
theorem Ending.mono (h : s.Ending limit answers) (hended : s'.ended = s.ended)
    (hcancelled : s.cancelled = true → s'.cancelled = true)
    (hstream : s.stream.ended = true → s'.stream.ended = true) (hsaid : answers <+: answers') :
    s'.Ending limit answers' := by
  cases h with
  | stopped unwanted how => exact .stopped (hcancelled unwanted) (hended.trans how)
  | closed final how => exact .closed (hstream final) (hended.trans how)
  | cutOff final how => exact .cutOff (hstream final) (hended.trans how)
  | tooLarge a said long how => exact .tooLarge a (hsaid.subset said) long (hended.trans how)
  | misread read left a parts clean idle how =>
    obtain ⟨more, rfl⟩ := hsaid
    refine .misread read (left ++ more) a ?_ clean idle (hended.trans how)
    rw [parts, List.append_assoc, List.cons_append]

theorem Fate.say (h : s.Fate limit answers underway) (a : Answer) :
    s.Fate limit (answers ++ [a]) (underway ++ a.bytes) := by
  cases h with
  | running read left parts alive wanted fit unread clean =>
    refine .running read (left ++ [a]) ?_ alive wanted fit ?_ clean
    · rw [parts, List.append_assoc]
    · rw [← List.append_assoc, unread, spell_append, spell_cons, spell_nil, List.append_nil]
  | ended how => exact .ended (how.mono rfl id id (List.prefix_append _ _))

/-- One answer more and the loop goes on, unless it was to an idle ping. -/
theorem receive_of_spoken {a : Answer}
    (h : (∃ push, Push.ofReply a.reply = .ok push) ∨ a.reply = .idlePong) :
    (a.reply ≠ .idlePong ∧ (s.receive a.reply).ended = s.ended ∧
      (s.receive a.reply).cancelled = s.cancelled ∧ (s.receive a.reply).inlet = s.inlet ∧
      (s.receive a.reply).stream = s.stream) ∨
    (a.reply = .idlePong ∧
      s.receive a.reply =
        { s with ended := some (.error (.unexpectedReply .pushArray .status)) }) := by
  rcases h with ⟨push, hpush⟩ | hidle
  · rw [receive_of_ok hpush]
    refine .inl ⟨fun hidle => ?_, rfl, rfl, rfl, rfl⟩
    rw [hidle] at hpush
    cases hpush
  · rw [hidle]
    exact .inr ⟨rfl, receive_of_fault rfl fun _ => by simp⟩

/-- Taking frames, the loop goes on or meets its fate. -/
theorem Fate.settleWithin (h : s.Fate limit answers underway) (hspoken : Spoken answers)
    (frames : Nat) : (s.settleWithin frames).Fate limit answers underway := by
  induction frames generalizing s with
  | zero => exact h
  | succ frames ih =>
    cases h with
    | ended how =>
      rw [settleWithin_of_ended how.isSome_ended]
      exact .ended how
    | running read left parts alive wanted fit unread clean =>
      have hround := settleWithin_round alive wanted fit unread frames
      have hfinish (e : Error) (inlet : Inlet) (stream : Stream) :
          ({ s with inlet, stream }.finish e).ended = some (.error e) := by
        rw [finish, wanted]
        rfl
      generalize s.settleWithin (frames + 1) = s' at hround
      cases hround with
      | @takes a rest inlet stream first fit' stays left' =>
        subst parts first
        have ha := hspoken a (by simp)
        rcases receive_of_spoken (s := { s with inlet, stream }) ha with
          ⟨hpushed, hended, hcancelled, hinlet, hstream⟩ | ⟨hidle, hreceive⟩
        · refine ih (.running (read ++ [a]) rest ?_ (hended.trans alive) (hcancelled.trans wanted)
            ?_ ?_ ?_)
          · rw [List.append_assoc, List.singleton_append]
          · rw [hinlet, hstream]
            exact fit'
          · rw [hinlet, hstream]
            exact left'
          · refine List.forall_mem_append.mpr ⟨clean, fun b hb => ?_⟩
            rw [List.mem_singleton.mp hb]
            exact hpushed
        · rw [hreceive, settleWithin_of_ended rfl]
          exact .ended (.misread read rest a rfl clean hidle rfl)
      | waits fit' stays same short =>
        exact .running read left parts alive wanted fit' (same ▸ unread) clean
      | closed final stays => exact .ended (.closed (stays.trans final) (hfinish _ _ _))
      | cutOff final stays => exact .ended (.cutOff (stays.trans final) (hfinish _ _ _))
      | @tooLarge a inlet stream first long =>
        refine .ended (.tooLarge a ?_ long (hfinish _ _ _))
        rw [parts]
        exact List.mem_append_right _ (List.mem_of_head? first)

theorem Fate.undergo {p : Peer} {underway' : Bytes} (h : s.Fate limit answers underway)
    (horderly : Peer.orderly s.stream.ended [p]) (hbytes : underway = p.bytes ++ underway') :
    { s with stream := s.stream.undergo p }.Fate limit answers underway' := by
  cases h with
  | running read left parts alive wanted fit unread clean =>
    refine .running read left parts alive wanted (fit.undergo horderly) ?_ clean
    rw [Inlet.unread_undergo, List.append_assoc, ← hbytes]
    exact unread
  | ended how =>
    have hstream (hended : s.stream.ended = true) : (s.stream.undergo p).ended = true :=
      @Stream.ended_foldl _ [p] hended
    exact .ended (how.mono rfl id hstream (List.prefix_refl _))

theorem Fate.transmit {command : Command} (h : s.Fate limit answers underway)
    (hsent : s.transmit command = .ok s') : s'.Fate limit answers underway := by
  unfold Subscriber.transmit at hsent
  split at hsent
  · cases hsent
  split at hsent
  · cases hsent
  split at hsent
  · rename_i stream hstream
    obtain ⟨-, rfl⟩ := Stream.send_ok hstream
    cases hsent
    cases h with
    | running read left parts alive wanted fit unread clean =>
      exact .running read left parts alive wanted ⟨fit.limit_eq, fit.sound, fit.quiet, fit.seen⟩
        unread clean
    | ended how => exact .ended (how.mono rfl id id (List.prefix_refl _))
  · cases hsent

/-- A loop that is told to stop ends well, unless it has met its fate before. -/
theorem Fate.shutDown (h : s.Fate limit answers underway) :
    s.shutDown.2.Fate limit answers underway := by
  have hended : s.shutDown.2.ended = some (s.ended.getD (.ok ())) := rfl
  cases h with
  | running read left parts alive wanted fit unread clean =>
    exact .ended (.stopped rfl (by rw [hended, alive]; rfl))
  | ended how =>
    have hstream : s.shutDown.2.stream.ended = s.stream.ended := by
      unfold Subscriber.shutDown
      dsimp only
      split
      · rename_i stream hstream
        obtain ⟨-, rfl⟩ := Stream.send_ok hstream
        rfl
      · rfl
    obtain ⟨out, hout⟩ := Option.isSome_iff_exists.mp how.isSome_ended
    refine .ended (how.mono ?_ (fun _ => rfl) hstream.trans (List.prefix_refl _))
    rw [hended, hout]
    rfl

end Subscriber

/-! ## A vigil -/

namespace Vigil

variable {v v' : Vigil} {limit : Nat}

/-- What is known at any time of a vigil. -/
structure Kept (limit : Nat) (v : Vigil) : Prop where
  fate : v.subscriber.Fate limit v.answers v.underway
  spoken : Subscriber.Spoken v.answers
  idle : v.idlePings = v.answers.countP fun a => a.reply = .idlePong

theorem Kept.say (h : v.Kept limit) {a : Answer} {push : Push}
    (hpush : Push.ofReply a.reply = .ok push) : (v.say a).Kept limit := by
  have hpushed : a.reply ≠ .idlePong := fun hidle => by
    rw [hidle] at hpush
    cases hpush
  refine ⟨h.fate.say a, ?_, ?_⟩
  · refine List.forall_mem_append.mpr ⟨h.spoken, fun b hb => ?_⟩
    rw [List.mem_singleton.mp hb]
    exact .inl ⟨push, hpush⟩
  · show v.idlePings = (v.answers ++ [a]).countP fun a => a.reply = .idlePong
    rw [List.countP_append, List.countP_cons, if_neg (by simpa using hpushed)]
    exact h.idle

theorem exists_push_of_count {a : Answer} (h : a.reply.count?.isSome) :
    ∃ push, Push.ofReply a.reply = .ok push := by
  unfold Reply.count? at h
  split at h
  · rename_i push hpush
    exact ⟨push, hpush⟩
  · cases h

theorem exists_push_of_message {a : Answer} (h : a.reply.isMessage) :
    ∃ push, Push.ofReply a.reply = .ok push := by
  unfold Reply.isMessage at h
  split at h
  · rename_i m hm
    exact ⟨_, hm⟩
  · cases h

theorem Kept.pong (h : v.Kept limit) {a : Answer} (hpong : v.pong? a = some v') :
    v'.Kept limit := by
  unfold pong? at hpong
  split at hpong
  · rename_i rest hasked hdue
    split at hpong
    · split at hpong
      · rename_i hpush
        cases hpong
        have hsaid := h.say hpush
        exact ⟨hsaid.fate, hsaid.spoken, hsaid.idle⟩
      · cases hpong
    · split at hpong
      · rename_i hidle
        cases hpong
        refine ⟨h.fate.say a, ?_, ?_⟩
        · refine List.forall_mem_append.mpr ⟨h.spoken, fun b hb => ?_⟩
          rw [List.mem_singleton.mp hb]
          exact .inr hidle
        · show v.idlePings + 1 = (v.answers ++ [a]).countP fun a => a.reply = .idlePong
          rw [List.countP_append, List.countP_cons, if_pos (by simpa using hidle), ← h.idle]
          rfl
      · cases hpong
  · cases hpong

theorem Kept.step {x : Occasion} (h : v.Kept limit) (hstep : v.step? x = some v') :
    v'.Kept limit := by
  cases x with
  | ask q =>
    simp only [step?] at hstep
    split at hstep
    · rename_i subscriber hsent
      cases hstep
      exact ⟨h.fate.transmit hsent, h.spoken, h.idle⟩
    · cases hstep
      exact h
  | change =>
    simp only [step?] at hstep
    split at hstep
    · cases hstep
      exact ⟨h.fate, h.spoken, h.idle⟩
    · cases hstep
  | acknowledge a =>
    simp only [step?] at hstep
    split at hstep
    · rename_i hdue
      cases hstep
      obtain ⟨push, hpush⟩ := exists_push_of_count hdue.2
      have hsaid := h.say hpush
      exact ⟨hsaid.fate, hsaid.spoken, hsaid.idle⟩
    · cases hstep
  | pong a => exact h.pong hstep
  | publish a =>
    simp only [step?] at hstep
    split at hstep
    · rename_i hmessage
      cases hstep
      obtain ⟨push, hpush⟩ := exists_push_of_message hmessage
      exact h.say hpush
    · cases hstep
  | peer p =>
    obtain ⟨underway, hunderway, rfl⟩ := Option.map_eq_some_iff.mp hstep
    refine ⟨?_, h.spoken, h.idle⟩
    cases p with
    | deliver bytes =>
      simp only [remaining?] at hunderway
      split at hunderway
      · rename_i hpossible
        cases hunderway
        obtain ⟨later, hlater⟩ := List.isPrefixOf_iff_prefix.mp hpossible.1
        refine h.fate.undergo ?_ ?_
        · rw [hpossible.2]
          rfl
        · rw [← hlater, List.drop_left]
          rfl
      · cases hunderway
    | finish =>
      cases hunderway
      exact h.fate.undergo (by cases v.subscriber.stream.ended <;> rfl) rfl
    | sever =>
      cases hunderway
      exact h.fate.undergo (by cases v.subscriber.stream.ended <;> rfl) rfl
  | receive frames =>
    cases hstep
    exact ⟨h.fate.settleWithin h.spoken frames, h.spoken, h.idle⟩
  | shutDown =>
    cases hstep
    exact ⟨h.fate.shutDown, h.spoken, h.idle⟩

theorem Begins.kept {settings : Settings} (h : v.Begins settings) :
    v.Kept settings.maxFrameSize := by
  obtain ⟨c, hreached, hhanded⟩ := h.handed
  obtain ⟨hclean, hs⟩ := Subscriber.ofConnection_ok hhanded
  have hsound := hreached.sound hclean
  refine ⟨.running [] v.answers rfl ?_ ?_ ?_ h.unread (by simp),
    fun a ha => .inl (h.pushed a ha), ?_⟩
  · rw [hs]
  · rw [hs]
  · rw [hs]
    exact hsound.wire
  · rw [h.awake, eq_comm, List.countP_eq_zero]
    intro a ha hidle
    obtain ⟨push, hpush⟩ := h.pushed a ha
    rw [of_decide_eq_true hidle] at hpush
    cases hpush

/-- Whatever is asked of a subscriber and its server during a vigil, whatever is published and
    however it arrives, the loop goes on until it is told to stop, the stream ends or a frame is
    longer than the limit, unless it reads the answer to an idle ping: that ends it at once. There
    are as many such answers as the server came to pings while nothing was subscribed. -/
theorem loop_endures {settings : Settings} {occasions : List Occasion} (h : v.Begins settings)
    (hrun : v.run? occasions = some v') :
    v'.subscriber.Fate settings.maxFrameSize v'.answers v'.underway ∧
      v'.idlePings = v'.answers.countP fun a => a.reply = .idlePong :=
  have hkept : v'.Kept settings.maxFrameSize :=
    iterates.always (fun hv hstep => hv.step hstep) h.kept hrun
  ⟨hkept.fate, hkept.idle⟩

/-- The loop of a connection that nobody has used. -/
def fresh : Vigil where
  subscriber := {
    stream := Stream.greeting []
    inlet := Inlet.start Settings.default.maxFrameSize
    outgoing := []
    subscription := Subscription.none
    mailbox := Mailbox.empty Settings.default.eventCapacity
    handled := []
    count := 0
    cancelled := false
    ended := none }
  asked := []
  due := []
  audience := Audience.empty
  answers := []
  underway := []
  idlePings := 0

theorem begins_fresh : fresh.Begins Settings.default :=
  ⟨⟨_, ⟨Stream.greeting [], [], rfl, rfl⟩, rfl⟩, rfl, fun _ ha => absurd ha List.not_mem_nil, rfl⟩

theorem read_parted : Reply.read (Broadcast.confirmation "unsubscribe" [98] 0).frame =
    .ok (Broadcast.confirmation "unsubscribe" [98] 0, []) :=
  rfl

theorem read_pong : Reply.read (Reply.array [.bulk (Text.toBytes "pong"), .bulk []]).frame =
    .ok (.array [.bulk (Text.toBytes "pong"), .bulk []], []) :=
  rfl

/-- A channel is joined, left and joined again. The server comes to a ping while it is joined, and
    what it says arrives in two pieces. -/
def lull : List Occasion :=
  let joined := Answer.ofReply (Broadcast.confirmation "subscribe" [98] 1) rfl
  let parted := Answer.ofReply (Broadcast.confirmation "unsubscribe" [98] 0) read_parted
  let pong := Answer.ofReply (.array [.bulk (Text.toBytes "pong"), .bulk []]) read_pong
  let said := spell [joined, pong, parted, joined]
  [.receive 1, .ask (.change ⟨false, false, [[98]]⟩), .ask .ping, .change, .acknowledge joined,
    .pong pong, .ask (.change ⟨true, false, []⟩), .change, .acknowledge parted,
    .ask (.change ⟨false, false, [[98]]⟩), .change, .acknowledge joined,
    .peer (.deliver (said.take 50)), .receive 9, .peer (.deliver (said.drop 50)), .receive 9]

theorem loop_endures_lull : ∃ v, fresh.run? lull = some v ∧ v.idlePings = 0 ∧
    v.subscriber.count = 1 ∧ v.subscriber.ended = none := by
  have hend : (fresh.run? lull).map (fun v =>
      ((v.idlePings, v.subscriber.count), (v.subscriber.cancelled, v.subscriber.stream.ended),
        v.answers.all fun a => a.bytes.length ≤ Settings.default.maxFrameSize)) =
      some ((0, 1), (false, false), true) := by
    decide +kernel
  obtain ⟨v, hrun, hv⟩ := Option.map_eq_some_iff.mp hend
  simp only [Prod.mk.injEq] at hv
  obtain ⟨⟨hidle, hcount⟩, ⟨hwanted, hopen⟩, hshort⟩ := hv
  obtain ⟨hfate, hpings⟩ := loop_endures begins_fresh hrun
  refine ⟨v, hrun, hidle, hcount, ?_⟩
  cases hfate with
  | running read left parts alive wanted fit unread clean => exact alive
  | ended how =>
    cases how with
    | stopped unwanted how => cases hwanted.symm.trans unwanted
    | closed final how => cases hopen.symm.trans final
    | cutOff final how => cases hopen.symm.trans final
    | tooLarge a said long how =>
      exact absurd long (Nat.not_lt.mpr (of_decide_eq_true (List.all_eq_true.mp hshort a said)))
    | misread read left a parts clean idle how =>
      rw [hidle, eq_comm, List.countP_eq_zero] at hpings
      exact absurd (decide_eq_true idle) (hpings a (by simp [parts]))

/-- Before anything is subscribed a ping is sent. The server answers it, and that ends the loop. -/
theorem idle_ping_ends_loop : fresh.Begins Settings.default ∧ ∃ v,
    fresh.run? [.ask .ping, .pong .pong, .peer (.deliver Answer.pong.bytes), .receive 1] = some v ∧
    v.subscriber.ended = some (.error (.unexpectedReply .pushArray .status)) ∧
    v.subscriber.cancelled = false ∧ v.subscriber.stream.ended = false := by
  have hend : (fresh.run? [.ask .ping, .pong .pong, .peer (.deliver Answer.pong.bytes),
      .receive 1]).map (fun v =>
        (v.subscriber.ended, v.subscriber.cancelled, v.subscriber.stream.ended)) =
      some (some (.error (.unexpectedReply .pushArray .status)), false, false) := by
    decide +kernel
  obtain ⟨v, hrun, hv⟩ := Option.map_eq_some_iff.mp hend
  simp only [Prod.mk.injEq] at hv
  exact ⟨begins_fresh, v, hrun, hv⟩

end Vigil

end RespLink
