import RespLink.Connection.Transaction

/-!
# Calls — a request and its reply

The plain use of a connection: a request is sent, its reply is read, and the caller gets what
the request asked for. A call is refused where the next frame could not be its reply: in push
mode, while a pipeline owes replies, and inside a transaction, where the server would only
acknowledge the command. MULTI, EXEC and DISCARD open and close the transaction.
-/

namespace RespLink

namespace Connection

/-- The reply to a command, as a call is to read it. -/
def callReply (command : Command) : Act Reply := do
  let inside := (← get).inTransaction
  if command.isMulti then beginTransaction command
  else if command.isExec && inside then
    return match ← execute command with
      | some items => .array items
      | none => .nullArray
  else if command.isDiscard && inside then
    discard command
    return .status "OK"
  else if inside then refuse (.insideTransaction command.name)
  else
    transmit command
    readReply

/-- Sends a request and waits for its answer. -/
def call (q : Request) : Act q.answer.Value := do
  ensureUsable
  let c ← get
  if c.subscription.active then refuse (.whileSubscribed q.command.name)
  if q.command.isSubscriptionChange then refuse (.subscriptionByCall q.command.name)
  if c.pipeline.active then refuse .whilePipelining
  project q.answer (← callReply q.command)

/-- Reads one frame, whatever it answers. -/
def read (s : Shape) : Act s.Value := do
  ensureUsable
  project s (← readReply)

/-- Opens a transaction. -/
def multi : Act Transaction := do
  let _ ← call Catalog.multi
  return ⟨0⟩

/-- Sends the password, if there is one, and waits until the server accepts it. -/
def authenticate : Act Unit := do
  match (← get).settings.password with
  | some password =>
    let _ ← call (Catalog.auth (Argument.ofText password))
    return ()
  | none => return ()

end Connection

/-- How opening a connection ended. -/
inductive Opening where
  /-- There is no stream. -/
  | unopened (e : Error)
  /-- There is a stream, but the server did not let the client in; the connection is as that
      left it, and nobody will use it. -/
  | turnedAway (halt : Halt) (c : Connection)
  | opened (c : Connection)
  deriving Repr, Inhabited

/-- Opens a connection: checks the settings, dials, and sends the password. -/
def Connection.connect (settings : Settings) (network : Network) : Opening :=
  match settings.dial network with
  | .error e => .unopened e
  | .ok stream =>
    match Connection.authenticate.run (Connection.ofStream stream settings) with
    | .ok () c => .opened c
    | .error halt c => .turnedAway halt c

end RespLink
