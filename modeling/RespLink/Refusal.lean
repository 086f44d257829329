import RespLink.Text.Quoted

/-!
# Refusals — requests turned down before anything is sent

A client that is in the middle of something cannot do everything, and settings can ask for what
does not exist. Such a request is refused on the spot: nothing has been written or read, so the
stream is as good as before. Each reason is a constructor; `Refusal.message` words it.
-/

namespace RespLink

/-- Why a request was turned down. The names carried are those of the commands concerned. -/
inductive Refusal where
  /-- The settings leave no transfer buffer to write through. -/
  | noTransferBuffers
  /-- The settings leave no room for a single event. -/
  | noEventCapacity
  /-- An encrypted stream is asked for and there is none to be had. -/
  | tlsUnavailable
  /-- A variable of the environment holds no value of its setting. -/
  | badVariable (name value : String)
  /-- A plain call while replies are pushed. -/
  | whileSubscribed (name : String)
  /-- A plain call that would start or stop pushing. -/
  | subscriptionByCall (name : String)
  /-- A plain call while requests are collected. -/
  | whilePipelining
  /-- A plain call while requests are queued in a transaction. -/
  | insideTransaction (name : String)
  | pipelineAlreadyActive
  | pipelineWhileSubscribed
  | writeOutsidePipeline
  | subscriptionInPipeline (name : String)
  | noPipeline
  | nestedTransaction
  | noTransaction
  | notQueueable (name : String)
  /-- A subscription change while requests are collected or queued. -/
  | subscriptionWhileBusy (name : String)
  | notSubscribed
  /-- A connection is to be handed over while requests are collected or queued. -/
  | handOverWhileBusy
  /-- A command that means nothing to a connection that replies are pushed on. -/
  | notForSubscriber (name : String)
  | transactionOnShared (name : String)
  | subscriptionOnShared (name : String)
  /-- A part of a request that no transfer buffer can hold. -/
  | oversizedArgument (size capacity : Nat)
  | noCommand
  /-- A reason in the words of whoever refused. -/
  | other (reason : String)
  deriving DecidableEq, Repr, Inhabited

namespace Refusal

/-- The wording of a refusal. -/
def message : Refusal → String
  | .noTransferBuffers => "transfer buffer size and count must be positive"
  | .noEventCapacity => "event capacity must be positive"
  | .tlsUnavailable => "TLS requested but the crate was built without the `tls` feature"
  | .badVariable name value => name ++ " must be a valid value, got " ++ Text.quoted value
  | .whileSubscribed name =>
    name ++ " is not allowed while subscribed; use the subscribe/unsubscribe methods"
  | .subscriptionByCall name =>
    name ++ " changes push mode; use the subscribe/unsubscribe methods"
  | .whilePipelining => "a pipeline is active; use write() and end_pipeline()"
  | .insideTransaction name =>
    name ++ " inside MULTI only gets a QUEUED acknowledgement; use queue()"
  | .pipelineAlreadyActive => "a pipeline is already active"
  | .pipelineWhileSubscribed => "can not pipeline while subscribed"
  | .writeOutsidePipeline => "write() needs an active pipeline; call start_pipeline() first"
  | .subscriptionInPipeline name => name ++ " can not be pipelined"
  | .noPipeline => "no pipeline is active"
  | .nestedTransaction => "MULTI calls can not be nested"
  | .noTransaction => "no transaction is active"
  | .notQueueable name => name ++ " can not be queued"
  | .subscriptionWhileBusy name => name ++ " is not allowed inside a pipeline or transaction"
  | .notSubscribed => "connection is not subscribed"
  | .handOverWhileBusy => "can not subscribe with an active pipeline or transaction"
  | .notForSubscriber name => name ++ " is not allowed on a subscriber"
  | .transactionOnShared name =>
    name ++ " is not supported on the async connector; use Connection::multi"
  | .subscriptionOnShared name =>
    name ++ " is not supported on the async connector; use Subscriber"
  | .oversizedArgument size capacity =>
    "argument of " ++ toString size ++ " bytes does not fit the " ++ toString capacity
      ++ " byte transfer buffer"
  | .noCommand => "no command given"
  | .other reason => reason

end Refusal

end RespLink
