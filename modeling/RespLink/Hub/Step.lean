import RespLink.Hub.Basic

/-!
# Steps of a hub — who may do what next

Callers, drives and closers run side by side, and between any two of their steps anybody else may
take theirs. `Hub.advance` is one step of one of them, or nothing if it has to wait. What is one
step here happens at once there: it is done under a lock, or without giving way.

Besides, the world may move: bytes arrive, the peer ends the stream or is gone, a limit on waiting
passes, a caller goes away. `Hub.step?` has them all, so that what holds after every step holds
whatever the order.
-/

namespace RespLink

namespace Hub

/-- Whoever can take a step. -/
inductive Task where
  | caller (i : Nat)
  | closer (k : Nat)
  | drive (j : Nat)
  deriving DecidableEq, Repr, Inhabited

/-! ## What steps are made of -/

/-- Moves a caller on. -/
def setCaller (h : Hub) (i : Nat) (phase : CallerPhase) : Hub :=
  { h with callers := h.callers.modify i fun c => { c with phase } }

/-- Moves a drive on. -/
def setDrive (h : Hub) (j : Nat) (phase : DrivePhase) : Hub :=
  { h with drives := h.drives.set j phase }

/-- Moves a closer on. -/
def setCloser (h : Hub) (k : Nat) (phase : CloserPhase) : Hub :=
  { h with closers := h.closers.set k phase }

/-- Taints the hub. The first reason stays. -/
def tainted (h : Hub) (reason : String) : Hub :=
  { h with taint := some (h.taint.getD reason), state := .disconnected }

/-- Closes the pool. -/
def closePool (h : Hub) : Hub := { h with pool := h.pool.close }

/-- A command is done with. Its caller may be gone, which changes nothing. -/
def complete (h : Hub) (t : Ticket) (outcome : Except Error Reply) : Hub :=
  { h with completions := h.completions ++ [(t.caller, outcome)] }

/-- Fails everything that is queued. -/
def drain (h : Hub) (reason : String) : Hub :=
  let failed := (h.unanswered ++ h.unwritten).map fun t =>
    (t.caller, (.error (.tainted reason) : Except Error Reply))
  { h with unwritten := [], unanswered := [], completions := h.completions ++ failed }

/-- The next frame of the stream, and the hub after it. -/
def intake (h : Hub) : Intake × Hub :=
  match h.stream with
  | none => (.pending, h)
  | some stream =>
    let (intake, inlet, stream) := h.inlet.next stream
    (intake, { h with inlet, stream := some stream })

/-- Sends bytes on the stream. -/
def send (h : Hub) (bytes : Bytes) : Except StreamFault Hub :=
  match h.stream with
  | none => .error .brokenPipe
  | some stream => (stream.send bytes).map fun stream => { h with stream := some stream }

/-! ## Opening the stream -/

/-- Caller `i` failed to open the stream. Whoever waits for it may try in turn. -/
def openFailed (h : Hub) (i : Nat) (e : Error) : Hub :=
  ({ h.tainted e.message with link := .vacant }).setCaller i (.finished (.error e))

/-- Caller `i` has opened the stream. -/
def opened (h : Hub) (i : Nat) : Hub :=
  ({ h with link := .up, state := .connected }).setCaller i .claiming

/-- Caller `i` begins to open the stream. -/
def beginOpening (h : Hub) (i : Nat) : Hub :=
  ({ h with link := .opening i, state := .connecting, attempts := h.attempts + 1 }).setCaller i
    .dialing

/-- Caller `i` has dialled. -/
def dialed (h : Hub) (i : Nat) : Hub :=
  match h.network.dial with
  | .error e => h.openFailed i e
  | .ok stream =>
    let h := { h with stream := some stream, inlet := Inlet.start h.settings.maxFrameSize }
    match h.settings.password with
    | none => h.opened i
    | some password =>
      match h.send (Catalog.auth (Argument.ofText password)).command.encode with
      | .ok h => h.setCaller i .authenticating
      | .error fault => h.openFailed i (.io fault)

/-- Caller `i` has the server's answer to the password. -/
def answered (h : Hub) (i : Nat) (r : Reply) : Hub :=
  match Shape.unit.project r with
  | .ok () => h.opened i
  | .error e => h.openFailed i e

/-! ## Callers -/

/-- Caller `i` is turned away by the pool. -/
def turnedAway (h : Hub) (i : Nat) : Hub :=
  let e := match h.taint with
    | some reason => Error.tainted reason
    | none => .connectionClosed
  h.setCaller i (.finished (.error e))

/-- Caller `i` has the pool's answer. -/
def claimed (h : Hub) (i : Nat) (answer : Pool.Claim × Pool) : Hub :=
  let (claim, pool) := answer
  let h := { h with pool }
  match claim with
  | .permitted => h.setCaller i .permitted
  | .wait => h.setCaller i .inLine
  | .turnedAway => h.turnedAway i

/-- One step of caller `i`. -/
def advanceCaller (h : Hub) (i : Nat) (c : Caller) : Option Hub :=
  match c.phase with
  | .entering =>
    match h.taint, c.errand with
    | some reason, _ => some (h.setCaller i (.finished (.error (.tainted reason))))
    | none, .link => some (h.setCaller i .linking)
    | none, .call q =>
      match h.refusal? q.command with
      | some refusal => some (h.setCaller i (.finished (.error (.usage refusal))))
      | none => some (h.setCaller i .linking)
  | .linking =>
    match h.taint, h.link with
    | some reason, _ => some (h.setCaller i (.finished (.error (.tainted reason))))
    | none, .up => some (h.setCaller i .claiming)
    | none, .vacant => some (h.beginOpening i)
    | none, .opening _ => some (h.setCaller i .awaitingLink)
  | .awaitingLink =>
    match h.link with
    | .up => some (h.setCaller i .claiming)
    | .vacant => some (h.beginOpening i)
    | .opening _ => none
  | .dialing => some (h.dialed i)
  | .authenticating =>
    match h.intake with
    | (.frame r, h) => some (h.answered i r)
    | (.failure e, h) => some (h.openFailed i e)
    | (.finished, h) => some (h.openFailed i .connectionClosed)
    | (.pending, _) => none
  | .claiming =>
    match c.errand with
    | .link => some (h.setCaller i (.finished (.ok none)))
    | .call _ => some (h.claimed i (h.pool.ask i))
  | .inLine =>
    match h.pool.look i with
    | (.wait, _) => none
    | answer => some (h.claimed i answer)
  | .permitted =>
    let (buffer, pool) := h.pool.takeBuffer
    some (({ h with pool }).setCaller i (.holding buffer))
  | .holding buffer =>
    match c.errand with
    | .link => none
    | .call q =>
      let h := { h with unwritten := h.unwritten ++ [Ticket.mk i q.command] }
      some (h.setCaller i (.entered buffer))
  | .entered buffer =>
    let h := { h with drives := h.drives ++ [DrivePhase.starting buffer] }
    some (h.setCaller i .waiting)
  | .waiting =>
    match h.completion? i with
    | some outcome => some (h.setCaller i (.finished (outcome.map some)))
    | none => none
  | .finished _ | .gone => none

/-! ## Drives -/

/-- Drive `j` lets go of the writer. -/
def releaseWriter (h : Hub) (j : Nat) (phase : DrivePhase) : Hub :=
  ({ h with writer := none }).setDrive j phase

/-- Drive `j` lets go of the reader and is done. -/
def releaseReader (h : Hub) (j : Nat) : Hub := ({ h with reader := none }).setDrive j .done

/-- Drive `j` failed to read the reply to a command. -/
def readFailed (h : Hub) (j : Nat) (t : Ticket) (e : Error) : Hub :=
  h.setDrive j (.failing .taint e.message (some (t, e)))

/-- One step of a drive that fails the hub. -/
def advanceFailure (h : Hub) (j : Nat) (stage : FailureStage) (reason : String)
    (owed : Option (Ticket × Error)) : Hub :=
  match stage with
  | .taint => (h.tainted reason).setDrive j (.failing .closePool reason owed)
  | .closePool => h.closePool.setDrive j (.failing .drain reason owed)
  | .drain => (h.drain reason).setDrive j (.failing .conclude reason owed)
  | .conclude =>
    match owed with
    | some (t, e) => (h.complete t (.error e)).releaseReader j
    | none => h.setDrive j .done

/-- One step of drive `j`. -/
def advanceDrive (h : Hub) (j : Nat) : DrivePhase → Option Hub
  | .starting buffer =>
    match h.taint with
    | some reason => some (h.setDrive j (.shelving (.fail (Error.tainted reason).message)))
    | none => if h.link = .up then some (h.setDrive j (.wantsWriter buffer)) else none
  | .wantsWriter buffer =>
    if h.writer = none then some (({ h with writer := some j }).setDrive j (.choosing buffer))
    else none
  | .choosing buffer =>
    match h.unwritten with
    | [] => some (h.releaseWriter j (.shelving .stop))
    | t :: rest =>
      let slices := (Transfer.write h.pool.capacity buffer t.command).slices
      some (({ h with unwritten := rest, unanswered := h.unanswered ++ [t] }).setDrive j
        (.writing slices))
  | .writing [] => some (h.releaseWriter j (.shelving .read))
  | .writing (slice :: rest) =>
    match h.send slice with
    | .ok h => some (h.setDrive j (.writing rest))
    | .error fault => some (h.releaseWriter j (.shelving (.fail (Error.io fault).message)))
  | .shelving next => some (({ h with pool := h.pool.putBuffer }).setDrive j (.returning next))
  | .returning next =>
    let h := { h with pool := h.pool.giveBack }
    match next with
    | .stop => some (h.setDrive j .done)
    | .read => some (h.setDrive j .wantsReader)
    | .fail reason => some (h.setDrive j (.failing .taint reason none))
  | .wantsReader =>
    if h.reader = none then some (({ h with reader := some j }).setDrive j .matching) else none
  | .matching =>
    match h.unanswered with
    | [] => some (h.releaseReader j)
    | t :: rest => some (({ h with unanswered := rest }).setDrive j (.reading t))
  | .reading t =>
    match h.intake with
    | (.frame r, h) => some ((h.complete t (.ok r)).releaseReader j)
    | (.failure e, h) => some (h.readFailed j t e)
    | (.finished, h) => some (h.readFailed j t .connectionClosed)
    | (.pending, _) => none
  | .failing stage reason owed => some (h.advanceFailure j stage reason owed)
  | .done => none

/-! ## Closers -/

/-- The taint of a hub that was closed. -/
def closedByClient : String := "closed by client"

/-- One step of closer `k`. The client's direction of the stream is ended last, and only between
    two commands. -/
def advanceCloser (h : Hub) (k : Nat) : CloserPhase → Option Hub
  | .failing .taint => some ((h.tainted closedByClient).setCloser k (.failing .closePool))
  | .failing .closePool => some (h.closePool.setCloser k (.failing .drain))
  | .failing .drain => some ((h.drain closedByClient).setCloser k (.failing .conclude))
  | .failing .conclude =>
    if h.link = .up then
      if h.writer = none then
        some (({ h with stream := h.stream.map Stream.shutDown }).setCloser k .done)
      else none
    else some (h.setCloser k .done)
  | .done => none

/-! ## Moves -/

/-- One step of somebody, if they need not wait. -/
def advance (h : Hub) : Task → Option Hub
  | .caller i =>
    match h.callers[i]? with
    | some c => h.advanceCaller i c
    | none => none
  | .closer k =>
    match h.closers[k]? with
    | some phase => h.advanceCloser k phase
    | none => none
  | .drive j =>
    match h.drives[j]? with
    | some phase => h.advanceDrive j phase
    | none => none

/-- The limit on waiting passes for somebody who waits for a frame that has not come. -/
def expire (h : Hub) (t : Task) : Option Hub :=
  match h.settings.readTimeout, h.intake with
  | some span, (.pending, h) =>
    match t with
    | .caller i =>
      match h.callers[i]? with
      | some ⟨_, .authenticating⟩ => some (h.openFailed i (.timeout span))
      | _ => none
    | .drive j =>
      match h.drives[j]? with
      | some (.reading ticket) => some (h.readFailed j ticket (.timeout span))
      | _ => none
    | .closer _ => none
  | _, _ => none

/-- A caller goes away, which is possible wherever it waits. -/
def leave (h : Hub) (i : Nat) : Option Hub :=
  match h.callers[i]? with
  | none => none
  | some c =>
    match c.phase with
    | .entering | .linking | .awaitingLink | .claiming | .waiting => some (h.setCaller i .gone)
    | .dialing | .authenticating =>
      some (({ h with link := .vacant, stream := none }).setCaller i .gone)
    | .inLine => some (({ h with pool := h.pool.withdraw i }).setCaller i .gone)
    | .holding _ => some (({ h with pool := h.pool.putBuffer.giveBack }).setCaller i .gone)
    | .permitted | .entered _ | .finished _ | .gone => none

/-- The peer's end of things: the stream, or if nobody has dialled yet what dialling will lead
    to. -/
def onPeer (h : Hub) (f : Stream → Stream) : Hub :=
  match h.stream, h.network with
  | some stream, _ => { h with stream := some (f stream) }
  | none, .accepts stream => { h with network := .accepts (f stream) }
  | none, _ => h

/-- Everything that can happen to a hub. -/
inductive Move where
  /-- Somebody wants something. -/
  | enter (errand : Errand)
  /-- Somebody closes the hub. -/
  | close
  | step (task : Task)
  | expire (task : Task)
  | leave (caller : Nat)
  /-- The peer sends bytes. -/
  | receive (bytes : Bytes)
  /-- The peer ends its direction of the stream. -/
  | finish
  /-- The peer is gone: nothing can be sent any more. -/
  | sever
  deriving DecidableEq, Repr, Inhabited

/-- The hub after a move, if the move is possible. -/
def step? (h : Hub) : Move → Option Hub
  | .enter errand => some { h with callers := h.callers ++ [⟨errand, .entering⟩] }
  | .close => some { h with closers := h.closers ++ [.failing .taint] }
  | .step task => h.advance task
  | .expire task => h.expire task
  | .leave i => h.leave i
  | .receive bytes => some (h.onPeer fun s => s.receive bytes)
  | .finish => some (h.onPeer Stream.finish)
  | .sever => some (h.onPeer fun s => { s with broken := true })

end Hub

end RespLink
