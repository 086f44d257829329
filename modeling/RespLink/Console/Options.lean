import RespLink.Settings.Environment

/-!
# Options — what the command line asks for

Words that begin with a dash are options, and whatever is left over is the command to send. An
option's value follows it, as a word of its own or after an equals sign; after a single dash and
a letter it may also follow at once. A word that looks like an option is never a value. Two
dashes alone end the options: everything after them belongs to the command.

The words are read in order, and the first that makes no sense, or that asks for help, ends the
reading. What the command line leaves open, the environment may say. Each option but the list of
channels can be given once.
-/

namespace RespLink
namespace Console

/-- What a run is asked to do. -/
structure Options where
  host : String
  port : Nat
  password : Option String
  tls : Bool
  readTimeout : Option Nat
  /-- The channels to listen on. -/
  channels : List String
  /-- The command's name and arguments. -/
  command : List String
  deriving DecidableEq, Repr, Inhabited

/-- Why there is nothing to run. -/
inductive Misuse where
  /-- The words make no sense. -/
  | invalid
  /-- Somebody asks for help. -/
  | help
  deriving DecidableEq, Repr, Inhabited

/-- The options that take one value or none. -/
inductive Key where
  | host
  | port
  | password
  | tls
  | readTimeout
  deriving DecidableEq, Repr, Inhabited

/-- What a word of the command line begins. -/
inductive Opt where
  | single (key : Key)
  | channels
  | help
  deriving DecidableEq, Repr, Inhabited

/-- The option of a long name. -/
def Opt.ofName? (name : List Char) : Option Opt :=
  if name = "host".toList then some (.single .host)
  else if name = "port".toList then some (.single .port)
  else if name = "password".toList then some (.single .password)
  else if name = "tls".toList then some (.single .tls)
  else if name = "read-timeout-ms".toList then some (.single .readTimeout)
  else if name = "subscribe".toList then some .channels
  else if name = "help".toList then some .help
  else none

/-- The option of a letter. -/
def Opt.ofLetter? (letter : Char) : Option Opt :=
  if letter = 'p' then some (.single .port)
  else if letter = 'a' then some (.single .password)
  else if letter = 'h' then some .help
  else none

/-- What was read so far; lists in reverse. -/
structure Scan where
  values : List (Key × String)
  channels : List String
  command : List String
  deriving DecidableEq, Repr, Inhabited

/-- Whether a word looks like an option. -/
def isOptionLike (word : String) : Bool :=
  match word.toList with
  | '-' :: _ :: _ => true
  | _ => false

/-- A port: an integer of either sign, so that zero may have a minus. -/
def port? (value : String) : Option Nat :=
  match Decimal.int? (Text.toBytes value) with
  | some i => if 0 ≤ i ∧ i < UInt16.size then some i.toNat else none
  | none => none

/-- Whether an option understands a value. -/
def Key.understands (key : Key) (value : String) : Bool :=
  match key with
  | .host | .password => true
  | .port => (port? value).isSome
  | .tls => (Environment.flag? value).isSome
  | .readTimeout => (Environment.unsigned? 64 value).isSome

/-- An option with its value, which may be given once. -/
def Scan.set (s : Scan) (key : Key) (value : String) : Except Misuse Scan :=
  if s.values.any fun v => v.1 == key then .error .invalid
  else if key.understands value then .ok { s with values := (key, value) :: s.values }
  else .error .invalid

/-- A name and what follows its equals sign, if there is one. -/
def splitEquals (word : List Char) : List Char × Option String :=
  match word.dropWhile (· ≠ '=') with
  | [] => (word, none)
  | _ :: value => (word.takeWhile (· ≠ '='), some (String.ofList value))

/-- What a word that looks like an option is: the option, and the value attached to it. The letter
    that asks for help is heeded at once, whatever is attached to it. -/
def optionWord (word : List Char) : Except Misuse (Opt × Option String) :=
  match word with
  | '-' :: '-' :: rest =>
    let (name, value) := splitEquals rest
    match Opt.ofName? name with
    | some o => .ok (o, value)
    | none => .error .invalid
  | '-' :: letter :: rest =>
    match Opt.ofLetter? letter with
    | some .help => .ok (.help, none)
    | some o =>
      let rest := if rest.head? = some '=' then rest.drop 1 else rest
      .ok (o, if word.length = 2 then none else some (String.ofList rest))
    | none => .error .invalid
  | _ => .error .invalid

/-- Where the next word belongs. -/
inductive Place where
  | command
  /-- The value of an option; there must be one. -/
  | value (key : Key)
  /-- One of the channels; one at least must follow. -/
  | channels (needed : Bool)
  deriving DecidableEq, Repr, Inhabited

/-- Takes an option that may have a value attached: what was read, and where the next word
    belongs. -/
def Scan.option (s : Scan) (o : Opt) (attached : Option String) : Except Misuse (Scan × Place) :=
  match o, attached with
  | .help, none => .error .help
  | .help, some _ => .error .invalid
  | .single .tls, none => (s.set .tls "true").map fun s => (s, .command)
  | .single .tls, some _ => .error .invalid
  | .single key, none => .ok (s, .value key)
  | .single key, some value => (s.set key value).map fun s => (s, .command)
  | .channels, none => .ok (s, .channels true)
  | .channels, some value => .ok ({ s with channels := value :: s.channels }, .command)

/-- Reads the words that are left. -/
def scan (s : Scan) : Place → List String → Except Misuse Scan
  | .command, [] | .channels false, [] => .ok s
  | .value _, [] | .channels true, [] => .error .invalid
  | place, word :: rest =>
    if word = "--" then
      if place = .command ∨ place = .channels false then
        .ok { s with command := rest.reverse ++ s.command }
      else .error .invalid
    else if isOptionLike word then
      if place = .command ∨ place = .channels false then do
        let (o, attached) ← optionWord word.toList
        let (s, place) ← s.option o attached
        scan s place rest
      else .error .invalid
    else
      match place with
      | .command => scan { s with command := word :: s.command } .command rest
      | .value key => do
        let s ← s.set key word
        scan s .command rest
      | .channels _ => scan { s with channels := word :: s.channels } (.channels false) rest

/-- A value as `read` understands it, from the command line or else from the environment, where a
    variable that is set must hold a text. -/
def Scan.value {α : Type} (s : Scan) (env : Environment) (key : Key) (name : String)
    (read : String → Option α) : Except Misuse (Option α) :=
  match (s.values.lookup key).map some |>.or ((env name).map Text.ofBytes?) with
  | none => .ok none
  | some text =>
    match text.bind read with
    | some value => .ok (some value)
    | none => .error .invalid

/-- What the words of a command line ask for. -/
def Options.parse (env : Environment) (words : List String) : Except Misuse Options := do
  let s ← scan ⟨[], [], []⟩ .command words
  if s.channels ≠ [] ∧ s.command ≠ [] then throw .invalid
  let host ← s.value env .host "REDIS_HOST" some
  let port ← s.value env .port "REDIS_PORT" port?
  let password ← s.value env .password "REDIS_PASSWORD" some
  let tls ← s.value env .tls "REDIS_TLS" Environment.flag?
  let readTimeout ← s.value env .readTimeout "REDIS_READ_TIMEOUT_MS" (Environment.unsigned? 64)
  return {
    host := host.getD Settings.default.host
    port := port.getD Settings.default.port
    password
    tls := tls.getD false
    readTimeout
    channels := s.channels.reverse
    command := s.command.reverse }

/-- The settings that the options amount to. -/
def Options.settings (o : Options) : Settings :=
  { Settings.server o.host o.port with
    tls := o.tls
    password := o.password
    readTimeout := o.readTimeout.map Span.ofMilliseconds }

end Console
end RespLink
