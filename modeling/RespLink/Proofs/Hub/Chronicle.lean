import RespLink.Proofs.Hub.Moves
import RespLink.Proofs.Hub.World
import RespLink.Proofs.Run

/-!
# Chronicles — what has been done, failures included

What is known of a `World` ends where its hub is tainted. What is to be said of failures needs a
history that goes on: which commands were entered, what each drive has taken off the queues, how
often the password was sent and how often whoever was opening the stream went away. A *chronicle*
keeps that beside a hub. It restrains nothing, and needs no server: the peer may do as it likes.

Where something holds only as long as certain steps are not taken, a run is one of steps that a
guard admits (`Chronicle.runWhile?`).
-/

namespace RespLink

open Hub

/-- What a drive has taken off the queues. -/
inductive Progress where
  | setOut
  | tookToWrite
  | tookToRead
  deriving DecidableEq, Repr

/-- The commands that are entered with a move: one or none. -/
def Hub.entrants (h : Hub) : Move → List Ticket
  | .step (.caller i) =>
    match h.callers[i]? with
    | some ⟨.call q, .holding _⟩ => [⟨i, q.command⟩]
    | _ => []
  | _ => []

/-- What drives have taken after a move. -/
def Hub.tally (h : Hub) (progress : List Progress) : Move → List Progress
  | .step (.caller i) =>
    match h.callers[i]? with
    | some ⟨_, .entered _⟩ => progress ++ [.setOut]
    | _ => progress
  | .step (.drive j) =>
    match h.drives[j]? with
    | some (.choosing _) => if h.unwritten = [] then progress else progress.set j .tookToWrite
    | some .matching => if h.unanswered = [] then progress else progress.set j .tookToRead
    | _ => progress
  | _ => progress

/-- Whether somebody sends the password with a move that leads to `h'`. -/
def Hub.greets (h h' : Hub) : Move → Bool
  | .step (.caller i) =>
    match h.callers[i]?, h'.callers[i]? with
    | some ⟨_, .dialing⟩, some ⟨_, .authenticating⟩ => true
    | _, _ => false
  | _ => false

/-- Whether somebody who was opening the stream goes away with a move. -/
def Hub.abandons (h : Hub) : Move → Bool
  | .leave i =>
    match h.callers[i]? with
    | some ⟨_, .dialing⟩ | some ⟨_, .authenticating⟩ => true
    | _ => false
  | _ => false

/-- A hub and what has been done. -/
structure Chronicle where
  hub : Hub
  /-- What callers entered. -/
  entered : List Ticket
  /-- What each drive has taken. -/
  progress : List Progress
  /-- How many times the password was sent. -/
  greetings : Nat
  /-- How many times somebody who was opening the stream went away. -/
  abandoned : Nat

namespace Chronicle

variable {w w' : Chronicle} {h h' : Hub} {i j : Nat} {m : Move}

/-- A hub that nobody has used. -/
def start (settings : Settings) (network : Network) : Chronicle :=
  ⟨Hub.start settings network, [], [], 0, 0⟩

/-- Writes down a move that leads to `h'`. -/
def note (w : Chronicle) (m : Move) (h' : Hub) : Chronicle where
  hub := h'
  entered := w.entered ++ w.hub.entrants m
  progress := w.hub.tally w.progress m
  greetings := w.greetings + (w.hub.greets h' m).toNat
  abandoned := w.abandoned + (w.hub.abandons m).toNat

/-- The chronicle after a move, if the move is possible. -/
def step? (w : Chronicle) (m : Move) : Option Chronicle := (w.hub.step? m).map (w.note m)

/-- The chronicle after several moves, if each is possible in its turn. -/
def run? (w : Chronicle) : List Move → Option Chronicle
  | [] => some w
  | m :: moves => (w.step? m).bind fun w' => w'.run? moves

/-- The chronicle after a move, if the move is possible and `admits` what it does to the hub. -/
def stepWhile? (admits : Hub → Hub → Bool) (w : Chronicle) (m : Move) : Option Chronicle :=
  (w.step? m).filter fun w' => admits w.hub w'.hub

/-- The chronicle after several moves that are all admitted. -/
def runWhile? (admits : Hub → Hub → Bool) (w : Chronicle) : List Move → Option Chronicle
  | [] => some w
  | m :: moves => (w.stepWhile? admits m).bind fun w' => w'.runWhile? admits moves

theorem iterates : Iterates step? run? where
  nil _ := rfl
  cons _ _ _ := rfl

theorem iterates_while (admits : Hub → Hub → Bool) :
    Iterates (stepWhile? admits) (runWhile? admits) where
  nil _ := rfl
  cons _ _ _ := rfl

theorem exists_of_step? (hstep : w.step? m = some w') :
    ∃ h', w.hub.step? m = some h' ∧ w' = w.note m h' := by
  obtain ⟨h', hmove, rfl⟩ := Option.map_eq_some_iff.mp hstep
  exact ⟨h', hmove, rfl⟩

theorem step?_of_stepWhile? {admits : Hub → Hub → Bool} (hstep : w.stepWhile? admits m = some w') :
    w.step? m = some w' ∧ admits w.hub w'.hub = true :=
  Option.filter_eq_some_iff.mp hstep

end Chronicle

end RespLink
