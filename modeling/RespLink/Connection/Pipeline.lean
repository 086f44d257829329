import RespLink.Connection.Basic

/-!
# Pipelines — many requests, then many replies

While a pipeline is active, requests are written without waiting. Each one owes a reply, and
their number is kept; ending the pipeline sends what was kept back and reads as many frames. A
server's error stays among them as a reply, so that the others keep their places.
-/

namespace RespLink

namespace Connection

/-- Starts to collect requests. -/
def startPipeline : Act Unit := do
  ensureUsable
  let c ← get
  if c.pipeline.active then refuse .pipelineAlreadyActive
  if c.subscription.active then refuse .pipelineWhileSubscribed
  set { c with pipeline := ⟨true, 0⟩ }

/-- Adds a request to the pipeline. -/
def write (command : Command) : Act Unit := do
  ensureUsable
  if !(← get).pipeline.active then refuse .writeOutsidePipeline
  if command.isSubscriptionChange then refuse (.subscriptionInPipeline command.name)
  feed command
  modify fun c =>
    { c with pipeline := { c.pipeline with outstanding := c.pipeline.outstanding + 1 } }

/-- Ends the pipeline and sends what was kept back: the number of replies that are owed. -/
def finishPipeline : Act Nat := do
  ensureUsable
  let c ← get
  if !c.pipeline.active then refuse .noPipeline
  set { c with pipeline := Pipeline.none }
  flush
  return c.pipeline.outstanding

/-- Reads so many replies, after those already read (in reverse). -/
def collect : (count : Nat) → (done : List Reply) → Act (List Reply)
  | 0, done => return done.reverse
  | count + 1, done => do
    let r ← readReply
    collect count (r :: done)

/-- Ends the pipeline: the replies to its requests, in order. -/
def endPipeline : Act (List Reply) := do
  collect (← finishPipeline) []

/-- Ends the pipeline and drops the replies to its requests. -/
def endPipelineIgnored : Act Unit := do
  let _ ← collect (← finishPipeline) []

end Connection

end RespLink
