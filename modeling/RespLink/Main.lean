import RespLink.Console.Run
import Std.Async.DNS
import Std.Async.TCP
import Std.Async.Timer

/-!
# The command line

`resplink SET key value` sends one command and prints its reply; `resplink --subscribe CHANNEL...`
prints what is published on the channels. What a run prints, sends and comes to is decided by
`Console.run` from the bytes that have come; here they are only carried between it and a socket.
-/

namespace RespLink
namespace Console

open Std.Async

/-- What came of waiting for the peer. -/
inductive News where
  | came (bytes : Bytes)
  | ended
  /-- Nothing came in time. -/
  | silence

/-- Does something, unless it takes longer than a limit. -/
def within {α : Type} (limit : Option Span) (act : Async α) : Async (Option α) :=
  match limit with
  | none => some <$> act
  | some span => Async.race (some <$> act) do
      sleep (.ofNat (max 1 span.milliseconds))
      return none

/-- Waits for the peer to send more. -/
def await (client : TCP.Socket.Client) (limit : Option Span) : Async News := do
  match ← within limit (client.recv? 65536) with
  | none => return .silence
  | some none => return .ended
  | some (some bytes) => return .came bytes.toList

/-- The addresses that the settings may mean. -/
def addresses (s : Settings) : Async (List Std.Net.SocketAddress) := do
  let port := s.port.toUInt16
  let found ← DNS.getAddrInfo s.host (toString s.port)
  return found.toList.map fun
    | .v4 addr => .v4 ⟨addr, port⟩
    | .v6 addr => .v6 ⟨addr, port⟩

/-- Connects to the first of some addresses that answers. -/
def dialFirst : List Std.Net.SocketAddress → Async TCP.Socket.Client
  | [] => throw (IO.userError "no address")
  | [addr] => dialOne addr
  | addr :: others => tryCatch (dialOne addr) fun _ => dialFirst others
where
  /-- Connects to one address. -/
  dialOne (addr : Std.Net.SocketAddress) : Async TCP.Socket.Client := do
    let client ← TCP.Socket.Client.mk
    client.connect addr
    client.noDelay
    return client

/-- Prints and sends what is new in a run that has sent `passed` bytes before, and carries it on
    with what has come in `stream` if it is waiting: the exit status in the end. -/
partial def carry (client : TCP.Socket.Client) (o : Options) (stream : Stream) (passed : Nat)
    (report : Report) : Async UInt32 := do
  let out ← IO.getStdout
  out.putStr report.output
  out.flush
  let sent := report.sent.getD []
  if passed < sent.length then client.send ⟨(sent.drop passed).toArray⟩
  let next := carry client o
  match report.ending with
  | .ok () => return (exitCode (.ok ())).toUInt32
  | .error (.failed e) =>
    IO.eprintln (errorLine e)
    return (exitCode (.error e)).toUInt32
  | .error .waiting =>
    match report.listener with
    | some s =>
      match ← await client none with
      | .came bytes => next stream sent.length (resume { s with stream := s.stream.receive bytes })
      | .ended | .silence => next stream sent.length (resume { s with stream := s.stream.finish })
    | none =>
      match ← await client o.settings.readTimeout with
      | .came bytes => again next (stream.receive bytes) sent.length
      | .ended => again next stream.finish sent.length
      | .silence => next stream sent.length (run o (.accepts stream))
where
  /-- Starts a run over. It waits as long as it has to, since the limit is kept here. -/
  again (next : Stream → Nat → Report → Async UInt32) (stream : Stream) (passed : Nat) :
      Async UInt32 :=
    next stream passed (run { o with readTimeout := none } (.accepts stream))

/-- Opens the stream that a run needs, and carries the run out. -/
def dialAndCarry (o : Options) : Async UInt32 := do
  let dial := addresses o.settings >>= dialFirst
  match ← within (some o.settings.connectTimeout) dial with
  | some client =>
    let stream := Stream.greeting []
    let status ← carry client o stream 0 (run { o with readTimeout := none } (.accepts stream))
    client.shutdown
    return status
  | none =>
    IO.eprintln (errorLine (.timeout o.settings.connectTimeout))
    return 1

/-- Carries out what the options ask for: the exit status. A run that fails otherwise than for
    want of a network never gets as far as needing one. -/
def carryOut (o : Options) : IO UInt32 := do
  match (run o .unreachable).ending with
  | .error (.failed (.io .unreachable)) =>
    tryCatch (dialAndCarry o).block fun e => do
      IO.eprintln ("Error: " ++ e.toString)
      return 1
  | .error (.failed e) =>
    IO.eprintln (errorLine e)
    return (exitCode (.error e)).toUInt32
  | .error .waiting | .ok () => return 0

/-- How to call the program. -/
def usage : String :=
  "Usage: resplink [OPTIONS] [COMMAND]...\n\n"
    ++ "      --host HOST                [env: REDIS_HOST] [default: 127.0.0.1]\n"
    ++ "  -p, --port PORT                [env: REDIS_PORT] [default: 6379]\n"
    ++ "  -a, --password PASSWORD        [env: REDIS_PASSWORD]\n"
    ++ "      --tls                      [env: REDIS_TLS]\n"
    ++ "      --read-timeout-ms MS       [env: REDIS_READ_TIMEOUT_MS]\n"
    ++ "      --subscribe CHANNEL...     print what is published, until interrupted\n"
    ++ "  -h, --help                     print this\n"

/-- The variables that the options look at, as they are set. -/
def readEnvironment : IO Environment := do
  let names := ["REDIS_HOST", "REDIS_PORT", "REDIS_PASSWORD", "REDIS_TLS", "REDIS_READ_TIMEOUT_MS"]
  let values ← names.mapM fun name => return (name, ← IO.getEnv name)
  return fun name => (values.lookup name).join.map Text.toBytes

end Console
end RespLink

/-- Does what the words of the command line ask for. -/
def main (words : List String) : IO UInt32 := do
  match RespLink.Console.Options.parse (← RespLink.Console.readEnvironment) words with
  | .error .help =>
    IO.print RespLink.Console.usage
    return 0
  | .error .invalid =>
    IO.eprint RespLink.Console.usage
    return 2
  | .ok o => RespLink.Console.carryOut o
