import RespLink.Connection.Call
import RespLink.Connection.Listening
import RespLink.Connection.Pipeline

/-!
# Operations — everything a connection can be asked

Whoever has a connection does one thing with it after another. `Operation` is the list of these
things and `Operation.act` says what each of them does, so that what holds before and after every
operation holds throughout the life of every connection.

A transaction is one operation from its beginning to its end, since nothing else can happen on
the connection meanwhile. Its commands can also be sent one by one.
-/

namespace RespLink

/-- Something that a connection can be asked to do. -/
inductive Operation where
  | call (q : Request)
  | read (s : Shape)
  | startPipeline
  | write (command : Command)
  | endPipeline
  | endPipelineIgnored
  | queue (command : Command)
  | transaction (commands : List Command) (ending : Transaction.Ending)
  | subscribe (channels : List Bytes)
  | psubscribe (patterns : List Bytes)
  | unsubscribe (channels : List Bytes)
  | punsubscribe (patterns : List Bytes)
  | nextPush
  | listen (stop : Connection.Stop)
  | onMessage (name : String) (h : Handler)
  | removeHandler (name : String)
  | watch
  | close
  deriving DecidableEq, Repr, Inhabited

namespace Operation

/-- What an operation answers with if it succeeds. -/
def Answer : Operation → Type
  | .call q => q.answer.Value
  | .read s => s.Value
  | .endPipeline => List Reply
  | .queue _ => String
  | .transaction _ _ => Transaction.Report
  | .nextPush => Event
  | .removeHandler _ => Bool
  | _ => Unit

/-- What an operation does. -/
def act : (o : Operation) → Act o.Answer
  | .call q => Connection.call q
  | .read s => Connection.read s
  | .startPipeline => Connection.startPipeline
  | .write command => Connection.write command
  | .endPipeline => Connection.endPipeline
  | .endPipelineIgnored => Connection.endPipelineIgnored
  | .queue command => Connection.queue command
  | .transaction commands ending => do
    let t ← Connection.multi
    t.conclude commands ending
  | .subscribe channels => Connection.subscribe channels
  | .psubscribe patterns => Connection.psubscribe patterns
  | .unsubscribe channels => Connection.unsubscribe channels
  | .punsubscribe patterns => Connection.punsubscribe patterns
  | .nextPush => Connection.nextPush
  | .listen stop => Connection.listen stop
  | .onMessage name h => modify fun c => c.onMessage name h
  | .removeHandler name => do
    let c ← get
    set (c.removeHandler name)
    return c.subscription.handlers.has name
  | .watch => modify Connection.watch
  | .close => Connection.close

end Operation

end RespLink
