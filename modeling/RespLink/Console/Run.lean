import RespLink.Console.Options
import RespLink.Subscriber

/-!
# Runs — one command, or listening

A run sends one command and prints its reply, or listens on channels and prints what is published
on them. It is a function of what the peer has sent so far, and if that is not enough, the run is
`waiting`.

Whoever carries it out then asks again when more has come. A run that has not printed anything
starts over with all that has come, and sends the same bytes and perhaps more; a run that listens
goes on from its subscriber (`resume`).
-/

namespace RespLink
namespace Console

/-- What a run came to. -/
structure Report where
  /-- What was printed. -/
  output : String
  /-- What was sent; nothing at all if there was no stream. -/
  sent : Option Bytes
  /-- How it ended, or that the peer has to send more first. -/
  ending : Except Halt Unit
  /-- Who listens, if the run has come that far. -/
  listener : Option Subscriber
  deriving Inhabited

/-- A run that ended before there was a stream. -/
def Report.failed (e : Error) : Report := ⟨"", none, .error (.failed e), none⟩

/-- A run that has used a stream and does not listen. -/
def Report.ofStream (stream : Stream) (output : String) (ending : Except Halt Unit) : Report :=
  ⟨output, some stream.sent, ending, none⟩

/-- The exit status of a run that ended one way or the other. -/
def exitCode : Except Error Unit → Nat
  | .ok () => 0
  | .error _ => 1

/-- The line about an error. -/
def errorLine (e : Error) : String := "Error: " ++ e.report

/-- The reply to a command, which may be an error. -/
def ask (command : Command) : Act Reply := do
  match ← Connection.attempt (Connection.call (Request.raw command)) with
  | .ok r => return r
  | .error (.server message) => return .error message
  | .error e => Connection.raise e

/-- Sends one command, prints its reply, and ends the client's direction of the stream. -/
def once (c : Connection) (command : Command) : Report :=
  match (ask command).run c with
  | .error halt c => .ofStream c.stream "" (.error halt)
  | .ok r c =>
    let output := r.display ++ "\n"
    match Connection.close.run c with
    | .error halt c => .ofStream c.stream output (.error halt)
    | .ok () c => .ofStream c.stream output (.ok ())

/-- A line for a published message. -/
def messageLine (m : Message) : String :=
  m.channel ++ ": " ++ Text.ofBytesLossy m.payload ++ "\n"

/-- What is printed for an event. -/
def eventText : Event → String
  | .received m => messageLine m
  | .changed _ | .queued _ => ""

/-- Prints events as they come, one frame at a time, so that none has to wait. -/
def follow : (fuel : Nat) → (output : String) → Subscriber → String × Subscriber
  | 0, output, s => (output, s)
  | fuel + 1, output, s =>
    let s := Subscriber.settleWithin 1 s
    let (events, mailbox) := s.mailbox.drain
    let output := events.foldl (fun printed e => printed ++ eventText e) output
    follow fuel output { s with mailbox }

/-- Goes on listening: what is printed from here on. -/
def resume (s : Subscriber) : Report :=
  let (output, s) := follow (s.inlet.decoder.buffer.length + s.stream.arrived.length + 3) "" s
  let ending := match s.ended with
    | none => .error .waiting
    | some (.ok ()) => .ok ()
    | some (.error e) => .error (.failed e)
  ⟨output, some s.stream.sent, ending, some s⟩

/-- Listens on channels and prints what is published on them, until the stream fails. -/
def listen (c : Connection) (channels : List String) : Report :=
  match Subscriber.ofConnection c with
  | .error e => .ofStream c.stream "" (.error (.failed e))
  | .ok s =>
    match s.subscribe (channels.map Argument.ofText) with
    | .error e => .ofStream s.stream "" (.error (.failed e))
    | .ok s => resume s

/-- A run with these options, over this network. -/
def run (o : Options) (network : Network) : Report :=
  let connected (next : Connection → Report) : Report :=
    match Connection.connect o.settings network with
    | .unopened e => .failed e
    | .turnedAway halt c => .ofStream c.stream "" (.error halt)
    | .opened c => next c
  if o.channels ≠ [] then connected fun c => listen c o.channels
  else
    match o.command with
    | [] => .failed (.usage .noCommand)
    | name :: args => connected fun c => once c ⟨name, args.map Argument.ofText⟩

end Console
end RespLink
