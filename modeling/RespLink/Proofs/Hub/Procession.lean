import RespLink.Proofs.Hub.Stages

/-!
# Processions — a hub in single file

A procession is a hub to which callers come one after the other, with what its peer has done. What
it is like is told by a conversation on a connection whose peer did the same: where nobody uses the
hub, both are in the same state (`Procession.Meets`), and during a call the connection either has
the call before it or has it behind it, depending on whether the hub has looked for the answer yet
(`Procession.Sim`). Each step of the one can be followed by the other, in both directions.
-/

namespace RespLink

namespace Caller

/-- The request of a caller, if it has one. -/
def request? : Caller → Option Request
  | ⟨.call q, _⟩ => some q
  | _ => none

/-- How the request of a caller ended, if it has. -/
def outcome? : Caller → Option Outcome
  | ⟨.call q, .finished o⟩ => some ⟨q, Hub.answer q o⟩
  | _ => none

end Caller

namespace Hub

/-- What callers asked for, in the order in which they came. -/
def requests (h : Hub) : List Request := h.callers.filterMap Caller.request?

/-- How that ended. -/
def outcomes (h : Hub) : List Outcome := h.callers.filterMap Caller.outcome?

/-- What the peer does with a move. -/
def Move.peer? : Move → Option Peer
  | .receive bytes => some (.deliver bytes)
  | .finish => some .finish
  | .sever => some .sever
  | _ => none

/-- Whether a move is a step of somebody, or the end of somebody's patience. -/
def Move.isInner : Move → Bool
  | .step _ | .expire _ => true
  | _ => false

end Hub

/-- A hub to which callers come one after the other, and what its peer has done. -/
structure Procession where
  hub : Hub
  peers : List Peer

namespace Procession

open Hub

def start (settings : Settings) (stream : Stream) : Procession :=
  ⟨Hub.start settings (.accepts stream), []⟩

/-- Whether nobody comes before the others have finished: first somebody who has the stream opened,
    then those who ask for something. Nobody leaves, and nobody closes the hub. -/
def admits (p : Procession) : Move → Bool
  | .enter .link => p.hub.callers.isEmpty
  | .enter (.call q) =>
    p.hub.link = .up && p.hub.callers.all (fun c => c.phase.isFinished) &&
      q.command.isShareable p.hub.settings.bufferSize
  | .step _ | .expire _ | .receive _ | .finish => true
  | .close | .leave _ | .sever => false

def step? (p : Procession) (m : Move) : Option Procession :=
  if p.admits m then (p.hub.step? m).map fun hub => ⟨hub, p.peers ++ m.peer?.toList⟩ else none

def run? (p : Procession) : List Move → Option Procession
  | [] => some p
  | m :: moves =>
    match p.step? m with
    | some p' => p'.run? moves
    | none => none

theorem iterates : Iterates step? run? where
  nil _ := rfl
  cons p m moves := by
    simp only [run?]
    cases p.step? m <;> rfl

/-- Not much more happens unless the peer does something, or somebody comes. -/
def Ends (p : Procession) : Prop :=
  ∃ n, ∀ inner p', inner.all Move.isInner → p.run? inner = some p' → inner.length ≤ n

/-- Nobody can tell what became of the one from what became of the other: the same was asked for,
    and with the same results; what is left has the same taint; and the same bytes were sent to
    peers that did the same. -/
structure Agrees (p : Procession) (s : Conversation) : Prop where
  peers : p.peers = s.peers
  requests : p.hub.requests = s.requests
  outcomes : p.hub.outcomes = s.outcomes
  taint : p.hub.taint = s.connection.taint
  sent : p.hub.stream.map Stream.sent = some s.connection.stream.sent

/-! ## Between two calls -/

/-- A hub that nobody uses, and a conversation in which nobody waits. -/
structure Meets (h : Hub) (s : Conversation) : Prop where
  rests : h.Rests
  plain : s.connection.Plain
  settings : h.settings = s.connection.settings
  stream : h.stream = some s.connection.stream
  inlet : h.inlet = s.connection.inlet
  taint : h.taint = s.connection.taint
  pool : h.taint = none → h.pool.Full
  capacity : h.pool.capacity = h.settings.bufferSize
  requests : h.requests = s.requests
  outcomes : h.outcomes = s.outcomes
  idle : s.isIdle

variable {h : Hub} {s s' : Conversation} {p p' : Procession} {q : Request} {x : Peer}

theorem Meets.agrees (hm : Meets h s) : Agrees ⟨h, s.peers⟩ s where
  peers := rfl
  requests := hm.requests
  outcomes := hm.outcomes
  taint := hm.taint
  sent := by rw [hm.stream]; rfl

theorem Meets.serves (hm : Meets h s) (hclean : h.taint = none) : h.Serves :=
  ⟨hm.rests, hclean, hm.pool hclean⟩

theorem sendable_undergo {stream : Stream} (hs : stream.Sendable) (hx : x.isHarmless) :
    (stream.undergo x).Sendable := by
  cases x with
  | deliver bytes | finish => exact ⟨hs.shut, hs.broken⟩
  | sever => cases hx

theorem sending_undergo (stream : Stream) (x : Peer) (bytes : Bytes) :
    (stream.sending bytes).undergo x = (stream.undergo x).sending bytes := by
  cases x <;> rfl

/-- What the peer does is done to both. -/
theorem Meets.undergo (hm : Meets h s) (hx : x.isHarmless) :
    Meets (h.onPeer fun stream => stream.undergo x) (s.undergo x) := by
  have hsendable := sendable_undergo hm.plain.sendable hx
  rw [onPeer_eq hm.stream]
  exact { hm with
    rests := { hm.rests with stream := ⟨_, rfl, hsendable⟩ }
    plain := { hm.plain with sendable := hsendable }
    stream := rfl }

theorem rests_joined {c : Caller} {p? : Option DrivePhase} (hr : h.Rests)
    (hc : c.phase.isFinished) (hp : p? = none ∨ p? = some .done) : (h.joined c p?).Rests := by
  refine { hr with callers := ?_, drives := ?_, unheard := ?_ }
  · intro x hx
    rcases List.mem_append.mp hx with hx | hx
    · exact hr.callers x hx
    · rw [List.mem_singleton.mp hx]
      exact hc
  · intro x hx
    rcases List.mem_append.mp hx with hx | hx
    · exact hr.drives x hx
    · rcases hp with rfl | rfl
      · cases hx
      · exact List.mem_singleton.mp hx
  · intro done hdone
    rw [joined, List.length_append]
    exact Nat.lt_succ_of_lt (hr.unheard done hdone)

theorem rests_served (hr : h.Rests) (o : Except Error Reply) : (h.served q o).Rests := by
  have hconcluded : (h.concluded o).Rests := by
    cases o with
    | ok r => exact hr
    | error e => exact { hr with }
  have hjoined : ((h.concluded o).joined ⟨.call q, .finished (o.map some)⟩ (some .done)).Rests :=
    rests_joined hconcluded rfl (.inr rfl)
  have hcallers : (h.concluded o).callers = h.callers := by cases o <;> rfl
  refine { hjoined with unheard := ?_ }
  intro done hdone
  show done.1 < ((h.concluded o).callers ++ [_]).length
  rw [hcallers, List.length_append]
  rcases List.mem_append.mp hdone with hdone | hdone
  · exact Nat.lt_succ_of_lt (hr.unheard done hdone)
  · rw [List.mem_singleton.mp hdone]
    exact Nat.lt_succ_self _

/-- The hub and the conversation after both have looked for the answer to a command. -/
theorem Meets.asked (hm : Meets h s) (command : Command) :
    Meets { h with
        inlet := (s.connection.asked command).2.inlet
        stream := some (s.connection.asked command).2.stream }
      { s with connection := (s.connection.asked command).2 } :=
  { hm with
    rests := { hm.rests with stream := ⟨_, rfl, (hm.plain.asked command).sendable⟩ }
    plain := hm.plain.asked command
    stream := rfl
    inlet := rfl }

theorem answer_map (q : Request) (o : Except Error Reply) :
    (⟨q, Hub.answer q (o.map some)⟩ : Outcome) = q.conclude o := by
  cases o <;> rfl

theorem requests_joined (h : Hub) (q : Request) (phase : CallerPhase) (p? : Option DrivePhase) :
    (h.joined ⟨.call q, phase⟩ p?).requests = h.requests ++ [q] := by
  simp [Hub.requests, joined, Caller.request?]

theorem outcomes_joined (h : Hub) (q : Request) (o : Except Error (Option Reply))
    (p? : Option DrivePhase) :
    (h.joined ⟨.call q, .finished o⟩ p?).outcomes = h.outcomes ++ [⟨q, Hub.answer q o⟩] := by
  simp [Hub.outcomes, joined, Caller.outcome?]

theorem outcomes_waiting (h : Hub) (q : Request) (p? : Option DrivePhase) :
    (h.joined ⟨.call q, .waiting⟩ p?).outcomes = h.outcomes := by
  simp [Hub.outcomes, joined, Caller.outcome?]

/-- A command was answered on both sides, or failed on both. -/
theorem Meets.told {o : Except Error Reply} (hm : Meets h s) (hclean : h.taint = none)
    (hfatal : ∀ e, o = .error e → e.isFatal) : Meets (h.served q o) (s.told q o) := by
  have hrests : (h.served q o).Rests := rests_served hm.rests o
  have hidle := Conversation.isIdle_told (q := q) (o := o) hm.idle
  have hrequests : (h.served q o).requests = s.requests ++ [q] := by
    rw [← hm.requests]
    cases o <;> exact requests_joined _ q _ _
  have houtcomes : (h.served q o).outcomes = s.outcomes ++ [q.conclude o] := by
    rw [← hm.outcomes, ← answer_map]
    cases o <;> exact outcomes_joined _ q _ _
  cases o with
  | ok r =>
    exact { hm with
      rests := hrests, idle := hidle, requests := hrequests, outcomes := houtcomes }
  | error e =>
    obtain ⟨connected, hconnection⟩ := s.connection.exists_tainted (hfatal e rfl)
    have hs : s.told q (.error e) = { s with
        connection := { s.connection with taint := some e.message, connected }
        requests := s.requests ++ [q]
        outcomes := s.outcomes ++ [q.conclude (.error e)] } := by
      simp only [Conversation.told, Connection.concluded, hconnection]
    rw [hs] at hidle ⊢
    exact { hm with
      rests := hrests
      plain := { hm.plain with }
      taint := by
        show some (h.taint.getD e.message) = _
        rw [hclean]
        rfl
      pool := by intro hnone; cases hnone
      idle := hidle
      requests := hrequests
      outcomes := houtcomes }

/-- A call on what is tainted fails on both sides. -/
theorem Meets.turnedAway {reason : String} (hm : Meets h s) (ht : h.taint = some reason) :
    Meets (h.arriving q (.finished (.error (.tainted reason)))) (s.call q) := by
  rw [Conversation.call_of_tainted (hm.taint.symm.trans ht)]
  exact { hm with
    rests := rests_joined hm.rests rfl (.inl rfl)
    requests := (requests_joined h q _ none).trans (by rw [hm.requests])
    outcomes := (outcomes_joined h q _ none).trans (by rw [hm.outcomes]; rfl)
    idle := by simpa [Conversation.isIdle] using hm.idle }

/-- Who only wanted the stream to be open has asked for nothing. -/
theorem Meets.welcomed (hm : Meets h s) :
    Meets (h.joined ⟨.link, .finished (.ok none)⟩ none) s :=
  { hm with
    rests := rests_joined hm.rests rfl (.inl rfl)
    requests := by
      rw [← hm.requests]
      simp [Hub.requests, joined, Caller.request?]
    outcomes := by
      rw [← hm.outcomes]
      simp [Hub.outcomes, joined, Caller.outcome?] }

/-! ## During a call -/

/-- It has come out for both how a command ended that was asked of them. -/
structure Learns (h : Hub) (s : Conversation) (q : Request) (o : Except Error Reply) : Prop where
  meets : Meets h s
  clean : h.taint = none
  shareable : q.command.isShareable h.pool.capacity
  fatal : ∀ e, o = .error e → e.isFatal

theorem Learns.told {o : Except Error Reply} (hl : Learns h s q o) :
    Meets (h.served q o) (s.told q o) := hl.meets.told hl.clean hl.fatal

theorem Learns.serves {o : Except Error Reply} (hl : Learns h s q o) : h.Serves :=
  hl.meets.serves hl.clean

/-- How far a hub and a connection are with the same call. -/
inductive Sim : Procession → Conversation → Prop
  /-- The stream is up, and the caller who wanted that does not know it yet. -/
  | opened {h : Hub} {s : Conversation} (meets : Meets h s) :
    Sim ⟨h.joined ⟨.link, .claiming⟩ none, s.peers⟩ s
  | resting {h : Hub} {s : Conversation} (meets : Meets h s) (used : h.callers ≠ []) :
    Sim ⟨h, s.peers⟩ s
  /-- The hub has not looked for the answer, and the connection has the call before it. -/
  | asking {h : Hub} {s : Conversation} {q : Request} {stage : Stage} (meets : Meets h s)
    (clean : h.taint = none) (shareable : q.command.isShareable h.pool.capacity)
    (early : stage.outcome? = none) : Sim ⟨h.place q stage, s.peers⟩ s
  /-- The hub is tainted, and its caller does not know it yet. -/
  | refusing {h : Hub} {s : Conversation} {q : Request} {reason : String} (meets : Meets h s)
    (taint : h.taint = some reason) (shareable : q.command.isShareable h.pool.capacity) :
    Sim ⟨h.place q .entering, s.peers⟩ s
  /-- The hub has looked, and the connection has the call behind it. -/
  | told {h : Hub} {s : Conversation} {q : Request} {stage : Stage} {o : Except Error Reply}
    (learns : Learns h s q o) (late : stage.outcome? = some o) :
    Sim ⟨h.place q stage, s.peers⟩ (s.told q o)

theorem exists_of_step? {m : Move} (hstep : p.step? m = some p') :
    p.admits m ∧ ∃ h', p.hub.step? m = some h' ∧ p' = ⟨h', p.peers ++ m.peer?.toList⟩ := by
  simp only [step?] at hstep
  split at hstep
  · rename_i hadmits
    obtain ⟨h', hmove, rfl⟩ := Option.map_eq_some_iff.mp hstep
    exact ⟨hadmits, h', hmove, rfl⟩
  · cases hstep

theorem exists_of_inner {m : Move} (hm : m.isInner) (hstep : p.step? m = some p') :
    ∃ t h', (p.hub.advance t = some h' ∨ p.hub.expire t = some h') ∧ p' = ⟨h', p.peers⟩ := by
  obtain ⟨-, h', hmove, rfl⟩ := exists_of_step? hstep
  cases m with
  | step t => exact ⟨t, h', .inl hmove, by simp [Move.peer?]⟩
  | expire t => exact ⟨t, h', .inr hmove, by simp [Move.peer?]⟩
  | _ => cases hm

/-- What a step of a procession is: something that happens without the peer, something that the
    peer does, or somebody who comes. -/
theorem cases_of_step? {m : Move} (hstep : p.step? m = some p') :
    (∃ t h', (p.hub.advance t = some h' ∨ p.hub.expire t = some h') ∧ p' = ⟨h', p.peers⟩) ∨
    (∃ x : Peer, x.isHarmless ∧
      p' = ⟨p.hub.onPeer fun stream => stream.undergo x, p.peers ++ [x]⟩) ∨
    ∃ errand, p.admits (.enter errand) ∧ p' = ⟨p.hub.joined ⟨errand, .entering⟩ none, p.peers⟩ := by
  obtain ⟨hadmits, h', hmove, hp'⟩ := exists_of_step? hstep
  cases m with
  | step t | expire t => exact .inl (exists_of_inner rfl hstep)
  | enter errand =>
    cases hmove
    exact .inr (.inr ⟨errand, hadmits, by simp [hp', joined, Move.peer?]⟩)
  | receive bytes =>
    cases hmove
    exact .inr (.inl ⟨.deliver bytes, rfl, hp'⟩)
  | finish =>
    cases hmove
    exact .inr (.inl ⟨.finish, rfl, hp'⟩)
  | close | leave i | sever => cases hadmits

/-- The conversation goes on somehow, and keeps up with the procession. -/
def Follows (s : Conversation) (p : Procession) : Prop :=
  ∃ s', Reaches Conversation.run? s s' ∧ Sim p s'

theorem Sim.follows (h : Sim p s) : Follows s p := ⟨s, .refl Conversation.iterates s, h⟩

/-- Both look for the answer to a command: either both learn how it ended, or both wait. -/
theorem Meets.looks (hm : Meets h s) (hclean : h.taint = none)
    (hq : q.command.isShareable h.pool.capacity) :
    (∃ h' s' o, Learns h' s' q o ∧ s'.peers = s.peers ∧ s.call q = s'.told q o ∧
      (h.place q .reading).Leads (h'.place q (.found o))) ∨
    ((h.place q .reading).Settled ∧ Agrees ⟨h.place q .reading, s.peers⟩ (s.call q) ∧
      (s.call q).isIdle = false) := by
  have htaint : s.connection.taint = none := hm.taint.symm.trans hclean
  have hnext : h.inlet.next (s.connection.stream.sending q.command.encode) =
      ((s.connection.asked q.command).1, (s.connection.asked q.command).2.inlet,
        (s.connection.asked q.command).2.stream) := by
    rw [hm.inlet]
    rfl
  have hlooks := (hm.serves hclean).looks (q := q) hm.stream hnext
  cases ho : (s.connection.asked q.command).1.outcome? h.settings.readTimeout with
  | none =>
    rw [ho] at hlooks
    rw [hm.settings] at ho
    rw [Conversation.call_of_pending (c := (s.connection.asked q.command).2) hm.plain htaint hq
      rfl ho]
    refine .inr ⟨hlooks, ?_, ?_⟩
    · refine ⟨rfl, ?_, ?_, hm.taint, ?_⟩
      · show Hub.requests _ = s.requests ++ [q]
        rw [← hm.requests]
        exact requests_joined _ q _ _
      · show Hub.outcomes _ = s.outcomes
        rw [← hm.outcomes]
        exact outcomes_waiting _ q _
      · show (h.stream.map _).map _ = some (s.connection.asked q.command).2.stream.sent
        rw [hm.stream, Connection.sent_asked]
        rfl
    · have hidle := hm.idle
      simp only [Conversation.isIdle, beq_iff_eq] at hidle
      simp [Conversation.isIdle, hidle]
  | some o =>
    rw [ho] at hlooks
    rw [hm.settings] at ho
    refine .inl ⟨_, _, o, ⟨hm.asked q.command, hclean, hq, ?_⟩, rfl, ?_, hlooks⟩
    · rintro e rfl
      exact s.connection.fatal_of_asked rfl ho
    · exact Conversation.call_of_outcome hm.plain htaint hq rfl ho

/-- What the peer does is done to both, however far they are. -/
theorem Sim.undergo (hsim : Sim p s) (hx : x.isHarmless) :
    Follows s ⟨p.hub.onPeer fun stream => stream.undergo x, p.peers ++ [x]⟩ := by
  have hreaches {s : Conversation} (hidle : s.isIdle) :
      Reaches Conversation.run? s (s.undergo x) :=
    .single Conversation.iterates (e := .peer x) (by simp [Conversation.step?, hidle, hx])
  have hsending (stream : Stream) (bytes : Bytes) := sending_undergo stream x bytes
  cases hsim with
  | @opened h s meets =>
    have hmeets := meets.undergo hx
    have hpeer : (h.joined ⟨.link, .claiming⟩ none).onPeer (fun stream => stream.undergo x) =
        (h.onPeer fun stream => stream.undergo x).joined ⟨.link, .claiming⟩ none := by
      rw [onPeer_eq meets.stream]
      exact onPeer_eq (h := h.joined _ _) meets.stream _
    rw [hpeer]
    exact ⟨_, hreaches meets.idle, .opened hmeets⟩
  | resting meets used =>
    refine ⟨_, hreaches meets.idle, .resting (meets.undergo hx) ?_⟩
    rw [onPeer_eq meets.stream]
    exact used
  | asking meets clean shareable early =>
    have hmeets := meets.undergo hx
    rw [place_onPeer meets.stream hsending]
    refine ⟨_, hreaches meets.idle, ?_⟩
    rw [onPeer_eq meets.stream] at hmeets ⊢
    exact .asking hmeets clean shareable early
  | refusing meets taint shareable =>
    have hmeets := meets.undergo hx
    rw [place_onPeer meets.stream hsending]
    refine ⟨_, hreaches meets.idle, ?_⟩
    rw [onPeer_eq meets.stream] at hmeets ⊢
    exact .refusing hmeets taint shareable
  | told learns late =>
    have hmeets := learns.meets.undergo hx
    rw [place_onPeer learns.meets.stream hsending]
    refine ⟨_, hreaches (Conversation.isIdle_told learns.meets.idle), ?_⟩
    rw [Conversation.undergo_told]
    rw [onPeer_eq learns.meets.stream] at hmeets ⊢
    exact .told ⟨hmeets, learns.clean, learns.shareable, learns.fatal⟩ late

/-- Nobody comes to a hub that somebody uses. -/
theorem not_admits_joined {c : Caller} {p? : Option DrivePhase} {peers : List Peer}
    {errand : Errand} (hc : c.phase.isFinished = false) :
    admits ⟨h.joined c p?, peers⟩ (.enter errand) = false := by
  cases errand <;> simp [admits, joined, hc]

/-- Who comes to a hub that nobody uses has a call for the connection. -/
theorem Sim.enters {errand : Errand} (hsim : Sim p s) (hadmits : p.admits (.enter errand)) :
    Sim ⟨p.hub.joined ⟨errand, .entering⟩ none, p.peers⟩ s := by
  have hbusy {h : Hub} {q : Request} {stage : Stage} {peers : List Peer}
      (hadmits : admits ⟨h.place q stage, peers⟩ (.enter errand)) : False := by
    obtain ⟨b, phase, p?, hplace, hphase⟩ := h.exists_joined_of_place q stage
    rw [hplace, not_admits_joined hphase] at hadmits
    cases hadmits
  cases hsim with
  | opened meets =>
    rw [not_admits_joined rfl] at hadmits
    cases hadmits
  | @resting h s meets used =>
    cases errand with
    | link =>
      exact absurd (List.isEmpty_iff.mp hadmits) used
    | call q =>
      have hq : q.command.isShareable h.pool.capacity := by
        simp only [admits, Bool.and_eq_true] at hadmits
        rw [meets.capacity]
        exact hadmits.2
      cases ht : h.taint with
      | none =>
        show Sim ⟨h.place q .entering, s.peers⟩ s
        exact .asking meets ht hq rfl
      | some reason => exact .refusing meets ht hq
  | asking meets clean shareable early => exact (hbusy hadmits).elim
  | refusing meets taint shareable => exact (hbusy hadmits).elim
  | told learns late => exact (hbusy hadmits).elim

/-- Who wanted the stream to be open learns that it is. -/
theorem leads_welcome (hr : h.Rests) :
    (h.joined ⟨.link, .claiming⟩ none).Leads (h.joined ⟨.link, .finished (.ok none)⟩ none) :=
  hr.leads_of_caller (.inl rfl) CallerPhase.noConfusion (congrArg some (setCaller_joined _))

theorem Meets.reaches_call (hm : Meets h s) (hq : q.command.isShareable h.pool.capacity) :
    Reaches Conversation.run? s (s.call q) := by
  rw [hm.capacity, hm.settings] at hq
  exact .single Conversation.iterates (e := .call q) (by simp [Conversation.step?, hm.idle, hq])

/-- Whatever happens without the peer, the conversation keeps up. -/
theorem Sim.moves {t : Task} {h' : Hub} (hsim : Sim p s)
    (hstep : p.hub.advance t = some h' ∨ p.hub.expire t = some h') : Follows s ⟨h', p.peers⟩ := by
  cases hsim with
  | opened meets =>
    rw [(leads_welcome meets.rests).only hstep]
    exact (Sim.resting meets.welcomed (by simp [joined])).follows
  | resting meets used => exact absurd hstep meets.rests.settled.stays
  | @asking h s q stage meets clean shareable early =>
    have hserves := meets.serves clean
    cases honward : h.onward q stage with
    | some next =>
      rw [(hserves.leads shareable honward).only hstep]
      exact (Sim.asking meets clean shareable
        ((outcome?_onward honward).trans early)).follows
    | none =>
      cases reading_of_onward honward early
      rcases meets.looks clean shareable with ⟨h'', s', o, hlearns, hpeers, hcall, hleads⟩ | hwaits
      · rw [hleads.only hstep, ← hpeers]
        exact ⟨_, hcall ▸ meets.reaches_call shareable, .told hlearns (outcome?_found o)⟩
      · exact absurd hstep hwaits.1.stays
  | @refusing h s q reason meets taint shareable =>
    rw [(meets.rests.turnsAway taint).only hstep]
    have hrests : Sim ⟨_, (s.call q).peers⟩ (s.call q) :=
      .resting (meets.turnedAway taint) (by simp [arriving, joined])
    rw [Conversation.peers_call] at hrests
    exact ⟨_, meets.reaches_call shareable, hrests⟩
  | @told h s q stage o learns late =>
    cases honward : h.onward q stage with
    | some next =>
      rw [(learns.serves.leads learns.shareable honward).only hstep]
      exact (Sim.told learns ((outcome?_onward honward).trans late)).follows
    | none =>
      cases answered_of_onward honward late
      rw [(learns.serves.wakes o).only hstep]
      exact (Sim.resting learns.told (by simp [served, joined])).follows

/-- Without the peer, a procession comes to where nothing more can happen. -/
theorem Sim.settles (hsim : Sim p s) : ∃ h', LeadsTo p.hub h' ∧ h'.Settled := by
  have htold {h : Hub} {s : Conversation} {q : Request} {stage : Stage} {o : Except Error Reply}
      (learns : Learns h s q o) (late : stage.outcome? = some o) :
      ∃ h', LeadsTo (h.place q stage) h' ∧ h'.Settled :=
    ⟨_, (learns.serves.finds learns.shareable late).trans
      (.head (learns.serves.wakes o) (.refl _)), learns.told.rests.settled⟩
  cases hsim with
  | opened meets =>
    exact ⟨_, .head (leads_welcome meets.rests) (.refl _), meets.welcomed.rests.settled⟩
  | resting meets used => exact ⟨_, .refl _, meets.rests.settled⟩
  | asking meets clean shareable early =>
    have hasks := (meets.serves clean).asks shareable early
    rcases meets.looks clean shareable with
      ⟨h', s', o, hlearns, -, -, hleads⟩ | ⟨hsettled, -, -⟩
    · obtain ⟨h'', hrest, hsettled⟩ := htold hlearns (outcome?_found o)
      exact ⟨h'', hasks.trans (.head hleads hrest), hsettled⟩
    · exact ⟨_, hasks, hsettled⟩
  | refusing meets taint shareable =>
    exact ⟨_, .head (meets.rests.turnsAway taint) (.refl _), (meets.turnedAway taint).rests.settled⟩
  | told learns late => exact htold learns late

/-- Where nothing more can happen without the peer, the procession agrees with the conversation, or
    with the conversation after a call that waits. -/
theorem Sim.agrees (hsim : Sim p s) (hsettled : p.hub.Settled) :
    ∃ s', Reaches Conversation.run? s s' ∧ Agrees p s' := by
  have hlast {h h' : Hub} (hleads : LeadsTo h h') (hsettled : h.Settled) : h' = h := by
    cases hleads with
    | refl => rfl
    | head hfirst _ => exact absurd hsettled hfirst.not_settled
  cases hsim with
  | opened meets => exact absurd hsettled (leads_welcome meets.rests).not_settled
  | resting meets used => exact ⟨_, .refl Conversation.iterates _, meets.agrees⟩
  | @asking h s q stage meets clean shareable early =>
    have hreads := hlast ((meets.serves clean).asks shareable early) hsettled
    rcases meets.looks clean shareable with ⟨h', s', o, -, -, -, hleads⟩ | ⟨-, hagrees, -⟩
    · rw [hreads] at hleads
      exact absurd hsettled hleads.not_settled
    · rw [hreads] at hagrees
      exact ⟨_, meets.reaches_call shareable, hagrees⟩
  | refusing meets taint shareable =>
    exact absurd hsettled (meets.rests.turnsAway taint).not_settled
  | @told h s q stage o learns late =>
    have hanswered := hlast (learns.serves.finds learns.shareable late) hsettled
    have hwakes := learns.serves.wakes (q := q) o
    rw [hanswered] at hwakes
    exact absurd hsettled hwakes.not_settled

/-! ## What a procession can reach -/

variable {h' : Hub} {peers : List Peer}

theorem reaches_of_leads (hl : h.Leads h') : Reaches run? ⟨h, peers⟩ ⟨h', peers⟩ := by
  obtain ⟨t, hstep | hstep⟩ := hl.possible
  · exact .single iterates (e := .step t) (by simp [step?, admits, Hub.step?, hstep, Move.peer?])
  · exact .single iterates (e := .expire t) (by simp [step?, admits, Hub.step?, hstep, Move.peer?])

theorem reaches_of_leadsTo (hl : LeadsTo h h') : Reaches run? ⟨h, peers⟩ ⟨h', peers⟩ := by
  induction hl with
  | refl h => exact .refl iterates _
  | head hfirst _ ih => exact (reaches_of_leads hfirst).trans iterates ih

theorem ends_of_leadsTo (hl : LeadsTo h h') (hsettled : h'.Settled) : Ends ⟨h, peers⟩ := by
  induction hl with
  | refl h =>
    refine ⟨0, fun inner p' hinner hrun => ?_⟩
    cases inner with
    | nil => exact Nat.le_refl 0
    | cons m inner =>
      obtain ⟨p, hstep, -⟩ := iterates.exists_of_cons hrun
      simp only [List.all_cons, Bool.and_eq_true] at hinner
      obtain ⟨t, h'', hmoves, -⟩ := exists_of_inner hinner.1 hstep
      exact absurd hmoves hsettled.stays
  | head hfirst _ ih =>
    obtain ⟨n, hn⟩ := ih hsettled
    refine ⟨n + 1, fun inner p' hinner hrun => ?_⟩
    cases inner with
    | nil => exact Nat.zero_le _
    | cons m inner =>
      obtain ⟨p, hstep, hrest⟩ := iterates.exists_of_cons hrun
      simp only [List.all_cons, Bool.and_eq_true] at hinner
      obtain ⟨t, h'', hmoves, rfl⟩ := exists_of_inner hinner.1 hstep
      rw [hfirst.only hmoves] at hrest
      exact Nat.succ_le_succ (hn inner p' hinner.2 hrest)

theorem reaches_undergo (p : Procession) (hx : x.isHarmless) :
    Reaches run? p ⟨p.hub.onPeer fun stream => stream.undergo x, p.peers ++ [x]⟩ := by
  cases x with
  | deliver bytes => exact .single iterates (e := .receive bytes) rfl
  | finish => exact .single iterates (e := .finish) rfl
  | sever => cases hx

theorem reaches_enter {errand : Errand} (hadmits : p.admits (.enter errand)) :
    Reaches run? p ⟨p.hub.joined ⟨errand, .entering⟩ none, p.peers⟩ := by
  refine .single iterates (e := .enter errand) ?_
  simp [step?, hadmits, Hub.step?, Move.peer?, joined]

/-- A procession that is where a conversation is. -/
inductive Matches : Procession → Conversation → Prop
  | resting {h : Hub} {s : Conversation} (meets : Meets h s) (used : h.callers ≠ []) :
    Matches ⟨h, s.peers⟩ s
  | waiting {p : Procession} {s : Conversation} (settled : p.hub.Settled) (up : p.hub.link = .up)
    (agrees : Agrees p s) (busy : s.isIdle = false) : Matches p s

theorem Matches.settled (hm : Matches p s) : p.hub.Settled ∧ p.hub.link = .up ∧ Agrees p s := by
  cases hm with
  | resting meets used => exact ⟨meets.rests.settled, meets.rests.link, meets.agrees⟩
  | waiting settled up agrees busy => exact ⟨settled, up, agrees⟩

/-- A call on the connection can be made on the hub, and comes to the same. -/
theorem Meets.calls (hm : Meets h s) (hq : q.command.isShareable h.pool.capacity) :
    ∃ p, Reaches run? ⟨h, s.peers⟩ p ∧ Matches p (s.call q) := by
  have henters : Reaches run? ⟨h, s.peers⟩ ⟨h.place q .entering, s.peers⟩ := by
    have hadmits : admits ⟨h, s.peers⟩ (.enter (.call q)) := by
      rw [hm.capacity] at hq
      simpa [admits, hm.rests.link, hq] using hm.rests.callers
    exact reaches_enter hadmits
  cases ht : h.taint with
  | some reason =>
    have hrests : Matches ⟨_, (s.call q).peers⟩ (s.call q) :=
      .resting (hm.turnedAway ht) (by simp [arriving, joined])
    rw [Conversation.peers_call] at hrests
    exact ⟨_, henters.trans iterates (reaches_of_leads (hm.rests.turnsAway ht)), hrests⟩
  | none =>
    have hserves := hm.serves ht
    have hreads := henters.trans iterates (reaches_of_leadsTo (hserves.asks hq rfl))
    rcases hm.looks ht hq with ⟨h', s', o, hlearns, hpeers, hcall, hleads⟩ |
      ⟨hsettled, hagrees, hbusy⟩
    · rw [hcall, ← hpeers]
      rw [← hpeers] at hreads
      have hanswered := (hreads.trans iterates (reaches_of_leads hleads)).trans iterates
        (reaches_of_leadsTo (hlearns.serves.finds hlearns.shareable (outcome?_found o)))
      exact ⟨_, hanswered.trans iterates (reaches_of_leads (hlearns.serves.wakes o)),
        .resting hlearns.told (by simp [served, joined])⟩
    · exact ⟨_, hreads, .waiting hsettled hm.rests.link hagrees hbusy⟩

/-- Whatever happens in a conversation, the procession can follow. -/
theorem Matches.follows {e : Conversation.Event} (hm : Matches p s)
    (hstep : s.step? e = some s') : ∃ p', Reaches run? p p' ∧ Matches p' s' := by
  cases hm with
  | waiting settled up agrees busy =>
    cases e <;> simp [Conversation.step?, busy] at hstep
  | @resting h s meets used =>
    cases e with
    | peer x =>
      simp only [Conversation.step?] at hstep
      split at hstep
      · rename_i hx
        cases hstep
        rw [meets.idle, Bool.true_and] at hx
        refine ⟨_, reaches_undergo _ hx, .resting (meets.undergo hx) ?_⟩
        rw [onPeer_eq meets.stream]
        exact used
      · cases hstep
    | call q =>
      simp only [Conversation.step?] at hstep
      split at hstep
      · rename_i hq
        cases hstep
        rw [meets.idle, Bool.true_and, ← meets.settings, ← meets.capacity] at hq
        exact meets.calls hq
      · cases hstep

end Procession

end RespLink
