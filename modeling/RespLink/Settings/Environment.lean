import RespLink.Decimal.Numeral
import RespLink.Settings.Basic

/-!
# The environment — settings from variables

Some settings can be given by the environment. A variable that is not set, or whose value is no
text, leaves its setting alone; one that holds no value of its setting is an error, and the
first such variable in a fixed order is the one reported.
-/

namespace RespLink

/-- The values of the environment's variables. -/
abbrev Environment := String → Option Bytes

namespace Environment

/-- The value of a variable as text. -/
def text? (env : Environment) (name : String) : Option String := (env name).bind Text.ofBytes?

/-- The value of a variable as `read` understands it. -/
def parse {α : Type} (env : Environment) (name : String) (read : String → Option α) :
    Except Refusal (Option α) :=
  match env.text? name with
  | none => .ok none
  | some value =>
    match read value with
    | some result => .ok (some result)
    | none => .error (.badVariable name value)

/-- A number of at most `bits` bits. -/
def unsigned? (bits : Nat) (value : String) : Option Nat :=
  Decimal.unsigned? bits (Text.toBytes value)

/-- A truth value, by its name in small letters. -/
def flag? (value : String) : Option Bool :=
  if value = "true" then some true else if value = "false" then some false else none

end Environment

/-- The unchanged settings, overlaid with what the environment says. -/
def Settings.ofEnvironment (env : Environment) : Except Refusal Settings := do
  let s := Settings.default
  let s := { s with host := (env.text? "REDIS_HOST").getD s.host }
  let port ← env.parse "REDIS_PORT" (Environment.unsigned? 16)
  let s := { s with port := port.getD s.port, password := env.text? "REDIS_PASSWORD" }
  let tls ← env.parse "REDIS_TLS" Environment.flag?
  let s := { s with tls := tls.getD s.tls }
  let timeout ← env.parse "REDIS_READ_TIMEOUT_MS" (Environment.unsigned? 64)
  let s := { s with readTimeout := timeout.map Span.ofMilliseconds }
  let size ← env.parse "MAX_FRAME_SIZE" (Environment.unsigned? 64)
  return { s with maxFrameSize := size.getD s.maxFrameSize }

end RespLink
