import RespLink.Connection.Basic

/-!
# Transactions — commands that run together

Between MULTI and EXEC the server does not run commands but queues them, and answers each with a
word to that effect. EXEC runs them all and answers with their replies in one array, or with
null if a watched key has changed; DISCARD forgets them.

A transaction is open from the moment the server accepted MULTI until EXEC or DISCARD was sent,
whatever the server says to these.
-/

namespace RespLink

namespace Connection

/-- Opens a transaction, unless the server refuses. -/
def beginTransaction (command : Command) : Act Reply := do
  if (← get).inTransaction then refuse .nestedTransaction
  transmit command
  let r ← readReply
  if r.isError then return r
  modify fun c => { c with inTransaction := true }
  return r

/-- Queues a command in an open transaction and reads the server's word for it. A command that
    would end or nest the transaction, or start pushing, is refused before it is written. -/
def queue (command : Command) : Act String := do
  ensureUsable
  if !(← get).inTransaction then refuse .noTransaction
  if command.isMulti || command.isExec || command.isDiscard || command.isSubscriptionChange then
    refuse (.notQueueable command.name)
  transmit command
  match ← readReply with
  | .status status =>
    notify (.queued status)
    return status
  | .error message => raise (.server message)
  | _ => fail (.unexpectedReply .status .nonStatus)

/-- Sends a command that ends the transaction, and reads its reply. -/
def endTransaction (command : Command) : Act Reply := do
  transmit command
  modify fun c => { c with inTransaction := false }
  readReply

/-- Runs what was queued: the replies in order, or none if the server ran nothing. -/
def execute (command : Command) : Act (Option (List Reply)) := do
  match ← endTransaction command with
  | .array items => return some items
  | .nullArray => return none
  | .error message => raise (.server message)
  | _ => raise (.unexpectedReply .array .nonArray)

/-- Forgets what was queued. -/
def discard (command : Command) : Act Unit := do
  project .unit (← endTransaction command)

end Connection

/-- An open transaction, and how many commands were queued in it. It says nothing about the
    connection, which may have failed meanwhile. -/
structure Transaction where
  queued : Nat
  deriving DecidableEq, Repr, Inhabited

namespace Transaction

/-- Queues one command more. -/
def queue (t : Transaction) (command : Command) : Act (String × Transaction) := do
  let status ← Connection.queue command
  return (status, ⟨t.queued + 1⟩)

/-- Runs what was queued. It is sent also on a connection that has failed. -/
def exec (_t : Transaction) : Act (Option (List Reply)) :=
  Connection.execute Catalog.exec.command

/-- Forgets what was queued. It is sent also on a connection that has failed. -/
def discard (_t : Transaction) : Act Unit := Connection.discard Catalog.discard.command

/-! ## From beginning to end -/

/-- How a transaction is left. -/
inductive Ending where
  | exec
  | discard
  /-- It is not ended and stays open. -/
  | abandon
  deriving DecidableEq, Repr, Inhabited

/-- What became of a transaction. -/
structure Report where
  /-- For each command, the server's word for it or why it was not queued. -/
  acknowledged : List (Except Error String)
  /-- How many commands were queued. -/
  queued : Nat
  /-- What ending it came to, unless it stays open: the replies if it was run, or none. -/
  ending : Option (Except Error (Option (List Reply)))
  deriving Repr, Inhabited

/-- Queues commands one after the other, whatever became of those before. -/
def queueAll (t : Transaction) : List Command → Act (List (Except Error String) × Transaction)
  | [] => return ([], t)
  | command :: rest => do
    match ← Connection.attempt (t.queue command) with
    | .ok (status, t) =>
      let (answers, t) ← t.queueAll rest
      return (.ok status :: answers, t)
    | .error e =>
      let (answers, t) ← t.queueAll rest
      return (.error e :: answers, t)

/-- Ends a transaction, or leaves it open. -/
def finish (t : Transaction) : Ending → Act (Option (Except Error (Option (List Reply))))
  | .exec => some <$> Connection.attempt t.exec
  | .discard => some <$> Connection.attempt do
    t.discard
    return none
  | .abandon => return none

/-- Queues commands and ends the transaction. -/
def conclude (t : Transaction) (commands : List Command) (ending : Ending) : Act Report := do
  let (acknowledged, t) ← t.queueAll commands
  let outcome ← t.finish ending
  return ⟨acknowledged, t.queued, outcome⟩

end Transaction

end RespLink
