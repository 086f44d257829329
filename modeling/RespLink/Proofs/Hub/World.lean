import RespLink.Hub.Step
import RespLink.Proofs.Request.Encoding
import RespLink.Proofs.Stream.Answers

/-!
# Worlds — a hub, its server, and what has happened

A hub knows what is queued, not what was; once a reply has been handed out nothing in it recalls
the command. To say that the right one was handed out, a *world* keeps the history beside the hub:
which commands were entered and taken to be written, and which frames were read, each in order.
It has the other side as well, a server that answers every command which has reached it in full
with one frame, in order, and whose bytes take as long as they like.

A world moves when its hub does, in any of the ways in which a hub can, or when the server
answers. The hub is not restrained by that, except that nothing arrives which the server did not
say.
-/

namespace RespLink

/-- What a move of a hub means for the commands that pass through it. -/
inductive Occurrence where
  /-- A caller enters a command. -/
  | entered (t : Ticket)
  /-- A drive takes a command to write it. -/
  | taken (t : Ticket)
  /-- A drive reads a frame. -/
  | read (r : Reply)
  | arrived (bytes : Bytes)
  /-- The stream is given up, and with it what was under way on it. -/
  | hungUp

/-- What a move means, if it is possible. -/
def Hub.occurrence? (h : Hub) : Move → Option Occurrence
  | .step (.caller i) =>
    match h.callers[i]? with
    | some ⟨.call q, .holding _⟩ => some (.entered ⟨i, q.command⟩)
    | _ => none
  | .step (.drive j) =>
    match h.drives[j]? with
    | some (.choosing _) => h.unwritten.head?.map .taken
    | some (.reading _) =>
      match h.intake.1 with
      | .frame r => some (.read r)
      | _ => none
    | _ => none
  | .leave i =>
    match h.callers[i]? with
    | some ⟨_, .dialing⟩ | some ⟨_, .authenticating⟩ => some .hungUp
    | _ => none
  | .receive bytes => some (.arrived bytes)
  | _ => none

/-- The commands that are sent before any caller's: the password, if there is one. -/
def Settings.greeting (s : Settings) : List Command :=
  match s.password with
  | none => []
  | some password => [(Catalog.auth (Argument.ofText password)).command]

/-- A hub with its server and its history. -/
structure World where
  hub : Hub
  /-- What callers entered. -/
  entered : List Ticket
  /-- What drives took to write it. -/
  taken : List Ticket
  /-- What drives read. -/
  frames : List Reply
  /-- What the server has said on the stream that is open. -/
  answers : List Answer
  /-- What of that has not arrived yet. -/
  underway : Bytes

namespace World

/-- A hub that nobody has used, with a server that has said nothing. -/
def start (settings : Settings) (network : Network) : World :=
  ⟨Hub.start settings network, [], [], [], [], []⟩

/-- The commands whose bytes belong on the stream, in order. -/
def asked (w : World) : List Command := w.hub.settings.greeting ++ w.taken.map Ticket.command

/-- Whether the first `n` commands have reached the server in full. -/
def reached (w : World) (n : Nat) : Bool :=
  match w.hub.stream with
  | none => false
  | some s => n ≤ w.asked.length && (Command.encodeAll (w.asked.take n)).isPrefixOf s.sent

/-- Whether the server has said what a move is about. -/
def admits (w : World) : Hub.Move → Bool
  | .receive bytes => bytes.isPrefixOf w.underway
  | _ => true

/-- Writes down what has happened. -/
def note (w : World) : Option Occurrence → World
  | none => w
  | some (.entered t) => { w with entered := w.entered ++ [t] }
  | some (.taken t) => { w with taken := w.taken ++ [t] }
  | some (.read r) => { w with frames := w.frames ++ [r] }
  | some (.arrived bytes) => { w with underway := w.underway.drop bytes.length }
  | some .hungUp => { w with answers := [], underway := [] }

/-- Everything that can happen in a world. -/
inductive Event where
  | move (m : Hub.Move)
  /-- The server answers the first command that it has not answered yet. -/
  | answer (a : Answer)

/-- The world after an event, if it is possible. -/
def step? (w : World) : Event → Option World
  | .move m =>
    if w.admits m then
      (w.hub.step? m).map fun hub => { w with hub }.note (w.hub.occurrence? m)
    else none
  | .answer a =>
    if w.reached (w.answers.length + 1) then
      some { w with answers := w.answers ++ [a], underway := w.underway ++ a.bytes }
    else none

/-- The world after several events, if each is possible in its turn. -/
def run? (w : World) : List Event → Option World
  | [] => some w
  | e :: events =>
    match w.step? e with
    | some w' => w'.run? events
    | none => none

/-- The answers of the server that have been read: the one to the greeting, once the stream is
    up, and those that drives have read. -/
def readCount (w : World) : Nat :=
  (if w.hub.link = .up then w.hub.settings.greeting.length else 0) + w.frames.length

end World

end RespLink
