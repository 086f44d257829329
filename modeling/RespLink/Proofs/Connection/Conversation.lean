import RespLink.Proofs.Connection.Contact
import RespLink.Proofs.Connection.Exchange
import RespLink.Proofs.Request.Keyword
import RespLink.Proofs.Run

/-!
# Conversations — one call after the other

A conversation is a connection past its opening, with what its peer has done and what became of the
calls that were made on it. None of these is inside a transaction or in push mode, so a call comes
down to three things: its command is sent, the next frame is looked for, and what comes instead of
one taints the connection (`Connection.call_eq`).

A call is made in one go. It stands where its answer has arrived, or where the wait for one is over,
and a call that has to wait is the last.
-/

namespace RespLink

/-- A request and how it ended. -/
structure Outcome where
  request : Request
  result : Except Error request.answer.Value

/-- How a request ends whose command was answered, or failed. -/
def Request.conclude (q : Request) (o : Except Error Reply) : Outcome := ⟨q, o.bind q.parse⟩

/-- Whether a command is one that a hub takes whose buffers have some capacity: it leaves alone
    what later replies mean, and it is not too large. -/
def Command.isShareable (command : Command) (capacity : Nat) : Bool :=
  !command.isBracket && !command.isSubscriptionChange && command.largestPart ≤ capacity

/-- Whether a peer leaves the client's direction of the stream alone. -/
def Peer.isHarmless : Peer → Bool
  | .deliver _ | .finish => true
  | .sever => false

/-- What an intake means for the command that was waiting for it, if it means anything. -/
def Intake.outcome? (patience : Option Span) : Intake → Option (Except Error Reply)
  | .frame r => some (.ok r)
  | .failure e => some (.error e)
  | .finished => some (.error .connectionClosed)
  | .pending => patience.map fun span => .error (.timeout span)

/-- The stream after bytes were sent. -/
def Stream.sending (s : Stream) (bytes : Bytes) : Stream := { s with sent := s.sent ++ bytes }

/-- Nothing keeps the client from sending. -/
structure Stream.Sendable (s : Stream) : Prop where
  shut : s.shut = false
  broken : s.broken = false

theorem Stream.Sendable.send_eq {s : Stream} (h : s.Sendable) (bytes : Bytes) :
    s.send bytes = .ok (s.sending bytes) := by
  rw [Stream.send, if_neg (by simp [h.shut, h.broken])]
  rfl

namespace Connection

/-- Nothing is under way but what the peer may have sent. -/
structure Plain (c : Connection) : Prop where
  outgoing : c.outgoing = []
  inTransaction : c.inTransaction = false
  pipeline : c.pipeline.active = false
  subscription : c.subscription.active = false
  sendable : c.stream.Sendable

/-- The connection after it sent a command and looked for the answer. -/
def asked (c : Connection) (command : Command) : Intake × Connection :=
  let found := c.inlet.next (c.stream.sending command.encode)
  (found.1, { c with inlet := found.2.1, stream := found.2.2 })

/-- The connection after a command was answered, or failed. -/
def concluded (c : Connection) : Except Error Reply → Connection
  | .ok _ => c
  | .error e => c.tainted e

variable {c : Connection} {q : Request} {command : Command}

theorem feed_eq (h : c.outgoing = []) (command : Command) :
    feed command c = .ok () { c with outgoing := command.encode } := by
  show (if backlogLimit ≤ c.outgoing.length then _ else _ : Act Unit) c = _
  rw [h, if_neg (by decide)]
  show EStateM.Result.ok () { c with outgoing := c.outgoing ++ command.encode } = _
  rw [h, List.nil_append]

theorem flush_eq (h : c.stream.Sendable) (hfull : c.outgoing ≠ []) :
    flush c = .ok () { c with stream := c.stream.sending c.outgoing, outgoing := [] } := by
  have hget : (get : Act Connection) c = .ok c c := rfl
  refine (Act.bind_of_ok hget).trans ?_
  rw [if_neg (by simpa using hfull), h.send_eq]
  rfl

/-- A command that is sent is sent in full, and nothing else happens. -/
theorem transmit_eq (h : c.Plain) (command : Command) :
    transmit command c = .ok () { c with stream := c.stream.sending command.encode } := by
  refine (Act.bind_of_ok (feed_eq h.outgoing command)).trans ?_
  have hflush := flush_eq (c := { c with outgoing := command.encode }) h.sendable
    command.encode_ne_nil
  rw [hflush, h.outgoing]

theorem nextFrame_eq {intake : Intake} {inlet : Inlet} {stream : Stream}
    (h : c.inlet.next c.stream = (intake, inlet, stream)) :
    nextFrame c =
      match intake.outcome? c.settings.readTimeout with
      | some o => .ok o { c with inlet, stream }
      | none => .error .waiting { c with inlet, stream } := by
  have hget : (get : Act Connection) c = .ok c c := rfl
  refine (Act.bind_of_ok hget).trans ?_
  simp only [h]
  have hset : (set { c with inlet, stream } : Act PUnit) c = .ok ⟨⟩ { c with inlet, stream } := rfl
  refine (Act.bind_of_ok hset).trans ?_
  cases intake with
  | frame r => rfl
  | failure e => rfl
  | finished => rfl
  | pending =>
    simp only [Intake.outcome?]
    cases c.settings.readTimeout with
    | none => rfl
    | some span => rfl

theorem ensureUsable_of_clean (h : c.taint = none) : ensureUsable c = .ok () c := by
  have hget : (get : Act Connection) c = .ok c c := rfl
  refine (Act.bind_of_ok hget).trans ?_
  rw [h]
  rfl

/-- A call that nothing turns down is nothing but a command and its reply. -/
theorem call_eq_exchange (h : c.Plain) (hclean : c.taint = none) {capacity : Nat}
    (hq : q.command.isShareable capacity) :
    call q c = (transmit q.command >>= fun _ => readReply >>= project q.answer) c := by
  simp only [Command.isShareable, Command.isBracket, Bool.and_eq_true, Bool.not_eq_true',
    Bool.or_eq_false_iff] at hq
  obtain ⟨⟨⟨⟨hmulti, -⟩, -⟩, hchange⟩, -⟩ := hq
  have hget : (get : Act Connection) c = .ok c c := rfl
  have hreply : callReply q.command c = (transmit q.command >>= fun _ => readReply) c := by
    refine (Act.bind_of_ok hget).trans ?_
    simp only [h.inTransaction, hmulti, Bool.and_false, Bool.false_eq_true, if_false]
  refine (Act.bind_of_ok (ensureUsable_of_clean hclean)).trans ((Act.bind_of_ok hget).trans ?_)
  simp only [h.subscription, hchange, h.pipeline, Bool.false_eq_true, if_false]
  show EStateM.bind (callReply q.command) _ c = _
  rw [EStateM.bind, hreply]
  rw [← bind_assoc]
  rfl

theorem project_eq (s : Shape) (r : Reply) (c : Connection) :
    project s r c =
      match s.project r with
      | .ok v => .ok v c
      | .error e => .error (.failed e) c := by
  unfold project
  cases s.project r <;> rfl

/-- What becomes of a call that nothing turns down is a matter of what there is to read. -/
theorem call_eq (h : c.Plain) (hclean : c.taint = none) {capacity : Nat}
    (hq : q.command.isShareable capacity) {intake : Intake} {c' : Connection}
    (hasked : c.asked q.command = (intake, c')) :
    call q c =
      match intake.outcome? c.settings.readTimeout with
      | some (.ok r) => project q.answer r c'
      | some (.error e) => .error (.failed e) (c'.tainted e)
      | none => .error .waiting c' := by
  rw [call_eq_exchange h hclean hq, Act.bind_of_ok (transmit_eq h q.command)]
  have hnext : nextFrame { c with stream := c.stream.sending q.command.encode } =
      match (c.asked q.command).1.outcome? c.settings.readTimeout with
      | some o => .ok o (c.asked q.command).2
      | none => .error .waiting (c.asked q.command).2 := nextFrame_eq rfl
  rw [hasked] at hnext
  cases ho : intake.outcome? c.settings.readTimeout with
  | none =>
    rw [ho] at hnext
    exact Act.bind_of_error (Act.bind_of_error hnext)
  | some o =>
    rw [ho] at hnext
    cases o with
    | ok r =>
      have hread : readReply _ = .ok r c' := Act.bind_of_ok hnext
      exact Act.bind_of_ok hread
    | error e =>
      have hread : readReply _ = .error (.failed e) (c'.tainted e) := Act.bind_of_ok hnext
      exact Act.bind_of_error hread

theorem Plain.asked (h : c.Plain) (command : Command) : (c.asked command).2.Plain := by
  obtain ⟨arrived, harrived⟩ := (c.inlet.next_looked (c.stream.sending command.encode)).stream
  refine ⟨h.outgoing, h.inTransaction, h.pipeline, h.subscription, ?_⟩
  simp only [Connection.asked, harrived]
  exact ⟨h.sendable.shut, h.sendable.broken⟩

theorem sent_asked (c : Connection) (command : Command) :
    (c.asked command).2.stream.sent = c.stream.sent ++ command.encode := by
  obtain ⟨arrived, harrived⟩ := (c.inlet.next_looked (c.stream.sending command.encode)).stream
  simp only [Connection.asked, harrived]
  rfl

/-- Whatever comes instead of a frame is fatal. -/
theorem fatal_of_asked {intake : Intake} {c' : Connection} {patience : Option Span} {e : Error}
    (hasked : c.asked command = (intake, c'))
    (ho : intake.outcome? patience = some (.error e)) : e.isFatal := by
  have hlooked := c.inlet.next_looked (c.stream.sending command.encode)
  cases hasked
  cases hintake : (c.inlet.next _).1 with
  | frame r =>
    rw [hintake] at ho
    cases ho
  | failure e' =>
    rw [hintake] at ho
    cases ho
    exact hlooked.fatal e hintake
  | finished =>
    rw [hintake] at ho
    cases ho
    rfl
  | pending =>
    rw [hintake] at ho
    obtain ⟨span, -, hspan⟩ := Option.map_eq_some_iff.mp ho
    cases hspan
    rfl

theorem exists_tainted {e : Error} (h : e.isFatal) :
    ∃ connected, c.tainted e = { c with taint := some e.message, connected } := by
  unfold tainted
  rw [if_pos h]
  exact ⟨_, rfl⟩

theorem stream_concluded (c : Connection) (o : Except Error Reply) :
    (c.concluded o).stream = c.stream := by
  cases o with
  | ok r => rfl
  | error e =>
    simp only [concluded, tainted]
    split <;> rfl

/-- What the peer does to the stream and what an answer does to the taint is all the same to each
    other. -/
theorem concluded_restream (c : Connection) (o : Except Error Reply) (stream : Stream) :
    { c.concluded o with stream } = { c with stream }.concluded o := by
  cases o with
  | ok r => rfl
  | error e =>
    simp only [concluded, tainted]
    split <;> rfl

theorem plain_ofStream {stream : Stream} (h : stream.Sendable) (settings : Settings) :
    (ofStream stream settings).Plain :=
  ⟨rfl, rfl, rfl, rfl, h⟩

theorem isShareable_auth (password : Bytes) :
    (Catalog.auth password).command.isShareable (Catalog.auth password).command.largestPart := by
  have hbracket : (Command.mk "AUTH" []).isBracket = false := by decide +kernel
  have hchange : (Command.mk "AUTH" []).isSubscriptionChange = false := by decide +kernel
  have hbracket' : (Catalog.auth password).command.isBracket = false := hbracket
  have hchange' : (Catalog.auth password).command.isSubscriptionChange = false := hchange
  simp [Command.isShareable, hbracket', hchange']

theorem connect_eq {settings : Settings} (hcheck : settings.check = .ok ()) (stream : Stream) :
    connect settings (.accepts stream) =
      match authenticate (ofStream stream settings) with
      | .ok () c => .opened c
      | .error halt c => .turnedAway halt c := by
  have hdial : settings.dial (.accepts stream) = .ok stream := by
    rw [Settings.dial, hcheck]
    rfl
  unfold connect
  split
  · rename_i e herror
    rw [hdial] at herror
    cases herror
  · rename_i stream' hok
    rw [hdial] at hok
    cases hok
    rfl

/-- A connection is opened by sending the password, if there is one. -/
theorem authenticate_of_password {password : String} (h : c.settings.password = some password) :
    authenticate c = (call (Catalog.auth (Argument.ofText password)) >>= fun _ => pure ()) c := by
  have hget : (get : Act Connection) c = .ok c c := rfl
  refine (Act.bind_of_ok hget).trans ?_
  rw [h]

theorem authenticate_of_no_password (h : c.settings.password = none) :
    authenticate c = .ok () c := by
  have hget : (get : Act Connection) c = .ok c c := rfl
  refine (Act.bind_of_ok hget).trans ?_
  rw [h]
  rfl

/-- Where there is a password the server has to accept it. -/
theorem connect_of_password {settings : Settings} {stream : Stream} {password : String}
    {intake : Intake} (hcheck : settings.check = .ok ()) (h : stream.Sendable)
    (hpassword : settings.password = some password)
    (hasked : (ofStream stream settings).asked
      (Catalog.auth (Argument.ofText password)).command = (intake, c)) :
    connect settings (.accepts stream) =
      match intake.outcome? settings.readTimeout with
      | some (.ok r) =>
        match Shape.unit.project r with
        | .ok () => .opened c
        | .error e => .turnedAway (.failed e) c
      | some (.error e) => .turnedAway (.failed e) (c.tainted e)
      | none => .turnedAway .waiting c := by
  have hcall : call (Catalog.auth (Argument.ofText password)) (ofStream stream settings) =
      match intake.outcome? settings.readTimeout with
      | some (.ok r) => project Shape.unit r c
      | some (.error e) => .error (.failed e) (c.tainted e)
      | none => .error .waiting c :=
    call_eq (plain_ofStream h settings) rfl (isShareable_auth _) hasked
  rw [connect_eq hcheck, authenticate_of_password hpassword]
  cases ho : intake.outcome? settings.readTimeout with
  | none =>
    rw [ho] at hcall
    rw [Act.bind_of_error hcall]
  | some o =>
    rw [ho] at hcall
    cases o with
    | ok r =>
      have hproject := hcall.trans (project_eq Shape.unit r c)
      simp only
      cases hunit : Shape.unit.project r with
      | ok v =>
        rw [hunit] at hproject
        rw [Act.bind_of_ok hproject]
        rfl
      | error e =>
        rw [hunit] at hproject
        rw [Act.bind_of_error hproject]
    | error e => rw [Act.bind_of_error hcall]

/-- Where there is no password there is nothing to accept. -/
theorem connect_of_no_password {settings : Settings} {stream : Stream}
    (hcheck : settings.check = .ok ()) (hpassword : settings.password = none) :
    connect settings (.accepts stream) = .opened (ofStream stream settings) := by
  rw [connect_eq hcheck, authenticate_of_no_password hpassword]

/-- Nothing is under way on a connection that was just opened. -/
theorem plain_of_connect {settings : Settings} {stream : Stream}
    (hcheck : settings.check = .ok ()) (h : stream.Sendable)
    (hconnect : connect settings (.accepts stream) = .opened c) :
    c.Plain ∧ c.taint = none ∧ settings = c.settings := by
  cases hpassword : settings.password with
  | none =>
    rw [connect_of_no_password hcheck hpassword] at hconnect
    cases hconnect
    exact ⟨plain_ofStream h settings, rfl, rfl⟩
  | some password =>
    have hopened : ((ofStream stream settings).asked
        (Catalog.auth (Argument.ofText password)).command).2 = c := by
      rw [connect_of_password hcheck h hpassword rfl] at hconnect
      split at hconnect
      · split at hconnect <;> cases hconnect
        rfl
      · cases hconnect
      · cases hconnect
    rw [← hopened]
    exact ⟨(plain_ofStream h settings).asked _, rfl, rfl⟩

end Connection

/-- A connection past its opening and what has become of it. -/
structure Conversation where
  connection : Connection
  /-- What the peer has done since it was dialled. -/
  peers : List Peer
  requests : List Request
  /-- How the requests ended. The last one may still wait. -/
  outcomes : List Outcome

namespace Conversation

/-- A conversation with a peer that has done something before it let the client in. -/
def open? (settings : Settings) (stream : Stream) (peers : List Peer) : Option Conversation :=
  if peers.all Peer.isHarmless then
    match Connection.connect settings (.accepts (peers.foldl Stream.undergo stream)) with
    | .opened c => some ⟨c, peers, [], []⟩
    | _ => none
  else none

inductive Event where
  | peer (p : Peer)
  | call (q : Request)

/-- Whether no call waits. -/
def isIdle (s : Conversation) : Bool := s.outcomes.length == s.requests.length

/-- The conversation after a command was answered, or failed. -/
def told (s : Conversation) (q : Request) (o : Except Error Reply) : Conversation :=
  { s with
    connection := s.connection.concluded o
    requests := s.requests ++ [q]
    outcomes := s.outcomes ++ [q.conclude o] }

/-- The conversation after a call, which may wait. -/
def call (s : Conversation) (q : Request) : Conversation :=
  match Connection.call q s.connection with
  | .ok v connection =>
    { s with connection, requests := s.requests ++ [q], outcomes := s.outcomes ++ [⟨q, .ok v⟩] }
  | .error (.failed e) connection =>
    { s with connection, requests := s.requests ++ [q], outcomes := s.outcomes ++ [⟨q, .error e⟩] }
  | .error .waiting connection => { s with connection, requests := s.requests ++ [q] }

/-- The conversation after the peer did something. -/
def undergo (s : Conversation) (p : Peer) : Conversation :=
  { s with
    connection := { s.connection with stream := s.connection.stream.undergo p }
    peers := s.peers ++ [p] }

def step? (s : Conversation) : Event → Option Conversation
  | .peer p => if s.isIdle && p.isHarmless then some (s.undergo p) else none
  | .call q =>
    if s.isIdle && q.command.isShareable s.connection.settings.bufferSize then some (s.call q)
    else none

def run? (s : Conversation) : List Event → Option Conversation
  | [] => some s
  | e :: events =>
    match s.step? e with
    | some s' => s'.run? events
    | none => none

theorem iterates : Iterates step? run? where
  nil _ := rfl
  cons s e events := by
    simp only [run?]
    cases s.step? e <;> rfl

variable {s : Conversation} {q : Request} {o : Except Error Reply} {intake : Intake}
  {c : Connection}

theorem open?_eq_some_iff {settings : Settings} {stream : Stream} {peers : List Peer} :
    open? settings stream peers = some s ↔ peers.all Peer.isHarmless ∧
      ∃ c, Connection.connect settings (.accepts (peers.foldl Stream.undergo stream)) = .opened c ∧
        s = ⟨c, peers, [], []⟩ := by
  constructor
  · intro hopen
    unfold open? at hopen
    split at hopen
    · rename_i hharmless
      split at hopen
      · rename_i c hconnect
        exact ⟨hharmless, c, hconnect, (Option.some.inj hopen).symm⟩
      · cases hopen
    · cases hopen
  · rintro ⟨hharmless, c, hconnect, rfl⟩
    rw [open?, if_pos hharmless, hconnect]

theorem undergo_told (p : Peer) : (s.told q o).undergo p = (s.undergo p).told q o := by
  simp only [undergo, told, Connection.stream_concluded, Connection.concluded_restream]

theorem isIdle_told (h : s.isIdle) : (s.told q o).isIdle := by
  simp_all [isIdle, told]

theorem peers_call (s : Conversation) (q : Request) : (s.call q).peers = s.peers := by
  unfold call
  split <;> rfl

theorem requests_call (s : Conversation) (q : Request) :
    (s.call q).requests = s.requests ++ [q] := by
  unfold call
  split <;> rfl

theorem peers_le_of_run {s' : Conversation} {events : List Event}
    (hrun : s.run? events = some s') : s.peers.length ≤ s'.peers.length := by
  refine iterates.always (P := fun t => s.peers.length ≤ t.peers.length) ?_ (Nat.le_refl _) hrun
  intro t t' e hle hstep
  cases e with
  | peer p =>
    simp only [step?] at hstep
    split at hstep <;> cases hstep
    exact Nat.le_trans hle (by simp [undergo])
  | call q =>
    simp only [step?] at hstep
    split at hstep <;> cases hstep
    rwa [peers_call]

/-- Where the peer does nothing, what becomes of a conversation is a matter of its calls. -/
theorem eq_foldl_of_run {s' : Conversation} {events : List Event}
    (hrun : s.run? events = some s') (hsilent : s'.peers.length ≤ s.peers.length) :
    ∃ qs, s'.requests = s.requests ++ qs ∧ s' = qs.foldl call s := by
  induction events generalizing s with
  | nil =>
    cases iterates.eq_of_nil hrun
    exact ⟨[], (List.append_nil _).symm, rfl⟩
  | cons e events ih =>
    obtain ⟨t, hstep, hrest⟩ := iterates.exists_of_cons hrun
    cases e with
    | peer p =>
      simp only [step?] at hstep
      split at hstep <;> cases hstep
      have hle := peers_le_of_run hrest
      simp only [undergo, List.length_append, List.length_singleton] at hle
      exact absurd hsilent (by omega)
    | call q =>
      simp only [step?] at hstep
      split at hstep <;> cases hstep
      obtain ⟨qs, hrequests, hfold⟩ := ih hrest (by rwa [peers_call])
      refine ⟨q :: qs, ?_, hfold⟩
      rw [hrequests, requests_call, List.append_assoc]
      rfl

theorem call_of_outcome (h : s.connection.Plain) (hclean : s.connection.taint = none)
    {capacity : Nat} (hq : q.command.isShareable capacity)
    (hasked : s.connection.asked q.command = (intake, c))
    (ho : intake.outcome? s.connection.settings.readTimeout = some o) :
    s.call q = { s with connection := c }.told q o := by
  have hcall := Connection.call_eq h hclean hq hasked
  rw [ho] at hcall
  cases o with
  | ok r =>
    have hproject := hcall.trans (Connection.project_eq q.answer r c)
    simp only [call, hproject, told, Request.conclude, Request.parse, Except.bind]
    cases q.answer.project r <;> rfl
  | error e =>
    simp only [call, hcall]
    rfl

theorem call_of_pending (h : s.connection.Plain) (hclean : s.connection.taint = none)
    {capacity : Nat} (hq : q.command.isShareable capacity)
    (hasked : s.connection.asked q.command = (intake, c))
    (ho : intake.outcome? s.connection.settings.readTimeout = none) :
    s.call q = { s with connection := c, requests := s.requests ++ [q] } := by
  have hcall := Connection.call_eq h hclean hq hasked
  rw [ho] at hcall
  simp only [call, hcall]

/-- On a tainted connection a call fails with the taint. -/
theorem call_of_tainted {reason : String} (htaint : s.connection.taint = some reason) :
    s.call q = { s with
      requests := s.requests ++ [q]
      outcomes := s.outcomes ++ [⟨q, .error (.tainted reason)⟩] } := by
  have hcall : Connection.call q s.connection = .error (.failed (.tainted reason)) s.connection :=
    Act.bind_of_error (Connection.ensureUsable_of_tainted htaint)
  simp only [call, hcall]

end Conversation

end RespLink
