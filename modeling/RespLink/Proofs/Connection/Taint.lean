import RespLink.Connection.Operation
import RespLink.Proofs.Connection.Contact
import RespLink.Proofs.Connection.Leaves

/-!
# Taint — what is left of a connection after a fatal error

Once a connection has lost its place in the stream, whatever it reads next may be the reply to
another command. So it remembers the failure, and what is done with it afterwards fails at once:
nothing is sent, nothing is read, nothing changes. No later event takes the taint away.

Not everything asks for the taint first. Listening asks whether anything is subscribed before it
asks whether the connection can be used, and ending a transaction through its handle does not ask
at all. The first ends well where it should fail, though it touches nothing. The second sends a
command on a stream that is out of step, which `exec_after_failure` shows.
-/

namespace RespLink

/-- Something that is done with a connection or with a transaction that is open on it. -/
inductive Deed where
  | operate (o : Operation)
  /-- A transaction is opened, and its handle kept. -/
  | multi
  | exec (t : Transaction)
  | discard (t : Transaction)
  /-- The handle of a transaction is dropped. -/
  | abandon

namespace Deed

/-- What a deed does to the connection. -/
def act : Deed → Act Unit
  | .operate o => do
    let _ ← o.act
  | .multi => do
    let _ ← Connection.multi
  | .exec t => do
    let _ ← t.exec
  | .discard t => t.discard
  | .abandon => pure ()

end Deed

/-- Something that happens to a connection. -/
inductive Happening where
  | deed (d : Deed)
  | peer (p : Peer)

namespace Connection

/-- The connection after something happened to it. A deed that has to wait is given up. -/
def undergo (c : Connection) : Happening → Connection
  | .deed d => d.act.after c
  | .peer p => { c with stream := c.stream.undergo p }

/-- The connection after several things happened to it, one after the other. -/
def live (c : Connection) (happenings : List Happening) : Connection :=
  happenings.foldl undergo c

variable {c : Connection} {reason : String}

/-! ## What fails at once -/

theorem bind_of_tainted {α : Type} {next : Unit → Act α} (h : c.taint = some reason) :
    (ensureUsable >>= next) c = .error (.failed (.tainted reason)) c :=
  Act.bind_of_error (ensureUsable_of_tainted h)

theorem changeSubscription_of_tainted (h : c.taint = some reason) (command : Command) :
    changeSubscription command c = .error (.failed (.tainted reason)) c :=
  bind_of_tainted h

theorem nextPush_of_tainted (h : c.taint = some reason) :
    nextPush c = .error (.failed (.tainted reason)) c := by
  show nextPushWithin (c.backlog + 2) c = _
  exact bind_of_tainted h

/-- Listening looks for subscriptions before it looks for a taint. -/
theorem listen_of_tainted (h : c.taint = some reason) (stop : Stop) :
    listen stop c =
      if c.subscription.active then .error (.failed (.tainted reason)) c else .ok () c := by
  show listenWithin stop (c.backlog + 2) (stop = .already) c = _
  rw [listenWithin]
  show (if !c.subscription.active then pure () else
    ensureUsable >>= fun _ => _ : Act Unit) c = _
  cases hactive : c.subscription.active with
  | false => rfl
  | true => exact bind_of_tainted h

theorem clean_of_call {q : Request} {v : q.answer.Value} {c' : Connection}
    (hrun : call q c = .ok v c') : c.taint = none := by
  cases htaint : c.taint with
  | none => rfl
  | some reason =>
    have herror : call q c = .error (.failed (.tainted reason)) c := bind_of_tainted htaint
    rw [herror] at hrun
    cases hrun

theorem multi_of_tainted (h : c.taint = some reason) :
    multi c = .error (.failed (.tainted reason)) c :=
  Act.bind_of_error (bind_of_tainted h)

end Connection

namespace Operation

open Connection

/-- Whether an operation is to use the stream. Handlers and mailboxes have nothing to do with it,
    and closing gives it up. -/
def usesStream : Operation → Bool
  | .onMessage _ _ | .removeHandler _ | .watch | .close => false
  | _ => true

variable {c : Connection} {reason : String}

/-- What is to use the stream of a tainted connection fails with the taint and changes nothing,
    unless it is to listen where nothing is subscribed. -/
theorem act_of_tainted {o : Operation} (h : c.taint = some reason) (huse : o.usesStream)
    (hlisten : ∀ stop, o = .listen stop → c.subscription.active = true) :
    o.act c = .error (.failed (.tainted reason)) c := by
  cases o with
  | call q => exact bind_of_tainted h
  | read s => exact bind_of_tainted h
  | startPipeline => exact bind_of_tainted h
  | write command => exact bind_of_tainted h
  | endPipeline => exact Act.bind_of_error (bind_of_tainted h)
  | endPipelineIgnored => exact Act.bind_of_error (bind_of_tainted h)
  | queue command => exact bind_of_tainted h
  | transaction commands ending => exact Act.bind_of_error (multi_of_tainted h)
  | subscribe channels => exact changeSubscription_of_tainted h _
  | psubscribe patterns => exact changeSubscription_of_tainted h _
  | unsubscribe channels => exact changeSubscription_of_tainted h _
  | punsubscribe patterns => exact changeSubscription_of_tainted h _
  | nextPush => exact nextPush_of_tainted h
  | listen stop =>
    have hlistened := listen_of_tainted h stop
    rw [hlisten stop rfl] at hlistened
    exact hlistened
  | onMessage name handler => cases huse
  | removeHandler name => cases huse
  | watch => cases huse
  | close => cases huse

end Operation

/-! ## What stays -/

namespace Connection

variable {c : Connection}

theorem lasting_tainted : Lasting fun c => c.taint ≠ none where
  wire _ _ _ h := h
  tainted {c} e h := by
    unfold Connection.tainted
    split
    · exact Option.some_ne_none _
    · exact h

/-- To close a connection is to taint it, unless it is down already. -/
theorem close_leaves_tainted (h : c.connected = false → c.taint ≠ none) :
    close.Leaves c fun c' => c'.taint ≠ none := by
  unfold close
  apply Act.Leaves.get
  split
  · refine .seq (.set (Option.some_ne_none _)) fun _ c' h' => ?_
    apply Act.Leaves.get
    split
    · exact .set h'
    · exact .raise h'
  · rename_i hdown
    exact .pure (h (by simpa using hdown))

theorem endTransaction_leaves_tainted (h : c.taint ≠ none) (command : Command) :
    (endTransaction command).Leaves c fun c' => c'.taint ≠ none := by
  refine .seq (transmit_leaves lasting_tainted h command) fun _ c' h' => ?_
  refine .seq (.update h') fun _ c'' h'' => ?_
  exact readReply_leaves lasting_tainted h''

theorem execute_leaves_tainted (h : c.taint ≠ none) (command : Command) :
    (execute command).Leaves c fun c' => c'.taint ≠ none := by
  refine .seq (endTransaction_leaves_tainted h command) fun r c' h' => ?_
  split
  · exact .pure h'
  · exact .pure h'
  · exact .raise h'
  · exact .raise h'

theorem project_leaves {P : Connection → Prop} (h : P c) (s : Shape) (r : Reply) :
    (project s r).Leaves c P := by
  unfold project
  split
  · exact .pure h
  · exact .raise h

theorem discard_leaves_tainted (h : c.taint ≠ none) (command : Command) :
    (discard command).Leaves c fun c' => c'.taint ≠ none := by
  refine .seq (endTransaction_leaves_tainted h command) fun r c' h' => ?_
  exact project_leaves h' _ r

theorem operation_leaves_tainted (h : c.taint ≠ none) (o : Operation) :
    o.act.Leaves c fun c' => c'.taint ≠ none := by
  obtain ⟨reason, hreason⟩ := Option.ne_none_iff_exists'.mp h
  cases o with
  | listen stop =>
    have hlistened := listen_of_tainted hreason stop
    split at hlistened
    · exact .of_error hlistened h
    · exact .of_ok hlistened h
  | onMessage name handler => exact .update h
  | removeHandler name => exact .get (.seq (.set h) fun _ _ h' => .pure h')
  | watch => exact .update h
  | close => exact close_leaves_tainted fun _ => h
  | _ => exact .of_error (Operation.act_of_tainted hreason rfl (by simp)) h

theorem deed_leaves_tainted (h : c.taint ≠ none) (d : Deed) :
    d.act.Leaves c fun c' => c'.taint ≠ none := by
  cases d with
  | operate o => exact .seq (operation_leaves_tainted h o) fun _ _ h' => .pure h'
  | multi =>
    obtain ⟨reason, hreason⟩ := Option.ne_none_iff_exists'.mp h
    exact .of_error (Act.bind_of_error (multi_of_tainted hreason)) h
  | exec t => exact .seq (execute_leaves_tainted h _) fun _ _ h' => .pure h'
  | discard t => exact discard_leaves_tainted h _
  | abandon => exact h

theorem tainted_undergo (h : c.taint ≠ none) (x : Happening) : (c.undergo x).taint ≠ none := by
  cases x with
  | deed d => exact deed_leaves_tainted h d
  | peer p => exact h

theorem tainted_live (h : c.taint ≠ none) (happenings : List Happening) :
    (c.live happenings).taint ≠ none := by
  induction happenings generalizing c with
  | nil => exact h
  | cons x happenings ih => exact ih (tainted_undergo h x)

/-- A connection that was tainted once is tainted whatever happens to it afterwards, and all that is
    to use its stream then fails with the taint and changes nothing. Listening where nothing is
    subscribed changes nothing either, but it does not fail. -/
theorem tainted_for_ever {reason : String} (h : c.taint = some reason)
    (happenings : List Happening) :
    ∃ reason', (c.live happenings).taint = some reason' ∧
      (∀ o : Operation, o.usesStream →
        (∀ stop, o = .listen stop → (c.live happenings).subscription.active = true) →
        o.act (c.live happenings) =
          .error (.failed (.tainted reason')) (c.live happenings)) ∧
      ((c.live happenings).subscription.active = false →
        ∀ stop, listen stop (c.live happenings) = .ok () (c.live happenings)) := by
  have hstays : (c.live happenings).taint ≠ none :=
    tainted_live (by rw [h]; exact Option.some_ne_none _) happenings
  obtain ⟨reason', hreason'⟩ := Option.ne_none_iff_exists'.mp hstays
  refine ⟨reason', hreason', ?_, ?_⟩
  · intro o huse hlisten
    exact Operation.act_of_tainted hreason' huse hlisten
  · intro hidle stop
    have hlistened := listen_of_tainted hreason' stop
    rw [hidle] at hlistened
    exact hlistened

/-- A transaction in which the server answered the first queued command with what is no frame. -/
def garbled : Connection :=
  (ofStream (Stream.greeting [43, 79, 75, 13, 10, 38, 13, 10]) Settings.default).live
    [.deed .multi, .deed (.operate (.queue (Catalog.get [107]).command))]

theorem tainted_for_ever_garbled : ∃ reason reason', garbled.taint = some reason ∧
    Connection.call Catalog.ping (garbled.live [.deed (.exec ⟨0⟩), .peer .finish]) =
      .error (.failed (.tainted reason')) (garbled.live [.deed (.exec ⟨0⟩), .peer .finish]) := by
  have hgarbled : garbled.taint = some "protocol error: invalid frame data type: 0x26" := by
    decide +kernel
  obtain ⟨reason', -, huse, -⟩ :=
    tainted_for_ever hgarbled [.deed (.exec ⟨0⟩), .peer .finish]
  exact ⟨_, reason', hgarbled, huse (.call Catalog.ping) rfl (by simp)⟩

/-- The handle of a transaction sends EXEC after the failure, and fails for another reason. -/
theorem exec_after_failure : garbled.taint ≠ none ∧
    (Transaction.exec ⟨0⟩).error? garbled = some .connectionClosed ∧
    ((Transaction.exec ⟨0⟩).after garbled).stream.sent =
      garbled.stream.sent ++ Catalog.exec.command.encode ∧
    Catalog.exec.command.encode ≠ [] := by
  decide +kernel

end Connection

end RespLink
