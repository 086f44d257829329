import RespLink.Connection.Operation
import RespLink.Proofs.Connection.Books
import RespLink.Proofs.Run

/-!
# Sessions — calls and pipelines on one connection

A connection on which one operation follows the other: calls, and pipelines that are started,
written to and ended in whichever way. Some are refused, some fail after their reply was read, and
a pipeline may be empty. Whatever the mix, the n-th frame is for the n-th command that was
accepted.

A session keeps the accepted commands and what the server says beside the connection. The server
answers each command with one frame, in order. It is not asked when: its bytes may arrive as late
as they like, and also before the connection looks for them, where they stay buffered. An
operation that would have to wait happens once what it waits for has arrived. Sending the password
at the beginning is a call like any other.
-/

namespace RespLink

/-- Whether an operation is a call or has to do with a pipeline. MULTI is not called, so that no
    transaction is opened. -/
def Operation.isPlain : Operation → Bool
  | .call q => !q.command.isMulti
  | .startPipeline | .write _ | .endPipeline | .endPipelineIgnored => true
  | _ => false

/-- The command that an operation is to hand over to the server. -/
def Operation.command? : Operation → Option Command
  | .call q => some q.command
  | .write command => some command
  | _ => none

/-- Whether an operation was turned down before it did anything. -/
def Error.isRefusal : Error → Bool
  | .usage _ | .tainted _ => true
  | _ => false

/-- A connection, what it was given, and its server. -/
structure Session where
  connection : Connection
  /-- The commands that were not refused. -/
  accepted : List Command
  /-- How many of them there were when the pipeline was started. -/
  opened : Nat
  /-- What the server has said. -/
  answers : List Answer
  /-- What of that has not arrived yet. -/
  underway : Bytes

namespace Session

/-- A connection over a stream that nobody has used. -/
def start (settings : Settings) (stream : Stream) : Session :=
  ⟨Connection.ofStream { stream with arrived := [], sent := [] } settings, [], 0, [], []⟩

/-- Everything that can happen in a session. -/
inductive Event where
  | operate (o : Operation)
  /-- The server answers the first command that it has not answered yet. -/
  | answer (a : Answer)
  /-- Bytes of the server arrive. -/
  | receive (bytes : Bytes)
  /-- The peer ends its direction of the stream. -/
  | finish
  /-- The peer is gone: nothing can be sent any more. -/
  | sever

/-- The session after an operation that was not refused. -/
def note (s : Session) (o : Operation) (connection : Connection) : Session :=
  { s with
    connection
    accepted := s.accepted ++ o.command?.toList
    opened := if o = .startPipeline then s.accepted.length else s.opened }

/-- The session after an operation, unless that has to wait. -/
def operate? (s : Session) (o : Operation) : Option Session :=
  match o.act s.connection with
  | .ok _ c => some (s.note o c)
  | .error (.failed e) c => some (if e.isRefusal then { s with connection := c } else s.note o c)
  | .error .waiting _ => none

/-- The session after an event, if it is possible. -/
def step? (s : Session) : Event → Option Session
  | .operate o => if o.isPlain then s.operate? o else none
  | .answer a => some { s with answers := s.answers ++ [a], underway := s.underway ++ a.bytes }
  | .receive bytes =>
    if bytes.isPrefixOf s.underway then
      some { s with
        connection := { s.connection with stream := s.connection.stream.receive bytes }
        underway := s.underway.drop bytes.length }
    else none
  | .finish => some { s with
      connection := { s.connection with stream := s.connection.stream.finish } }
  | .sever => some { s with
      connection := { s.connection with stream := { s.connection.stream with broken := true } } }

/-- The session after several events, if each is possible in its turn. -/
def run? (s : Session) : List Event → Option Session
  | [] => some s
  | e :: events =>
    match s.step? e with
    | some s' => s'.run? events
    | none => none

open Connection

/-- What holds in a session as long as its connection is not tainted. -/
structure Orderly (s : Session) : Prop where
  books : ∃ read, Books s.answers s.underway s.accepted read s.connection ∧
    read + s.connection.pipeline.outstanding = s.accepted.length
  inTransaction : s.connection.inTransaction = false
  idle : s.connection.pipeline.active = false →
    s.connection.outgoing = [] ∧ s.connection.pipeline.outstanding = 0
  pipeline : s.connection.pipeline.active = true →
    s.opened + s.connection.pipeline.outstanding = s.accepted.length

theorem Orderly.start (settings : Settings) (stream : Stream) :
    (start settings stream).Orderly where
  books := ⟨0, ⟨rfl, Nat.le_refl 0, 0, rfl, rfl⟩, rfl⟩
  inTransaction := rfl
  idle _ := ⟨rfl, rfl⟩
  pipeline h := by cases h

variable {s s' : Session}

/-! ## Operations -/

theorem Pipeline.eq_none {p : Pipeline} (hactive : p.active = false)
    (houtstanding : p.outstanding = 0) :
    p = Pipeline.none := by
  obtain ⟨active, outstanding⟩ := p
  cases hactive
  cases houtstanding
  rfl

/-- Where everything was read and nothing is kept back, a session is orderly. -/
theorem Orderly.settled {read : Nat}
    (hbooks : Books s.answers s.underway s.accepted read s.connection)
    (hread : read = s.accepted.length) (htransaction : s.connection.inTransaction = false)
    (hpipeline : s.connection.pipeline = Pipeline.none) (houtgoing : s.connection.outgoing = []) :
    s.Orderly := by
  refine ⟨⟨read, hbooks, ?_⟩, htransaction, ?_, ?_⟩
  · rw [hpipeline, hread]
    rfl
  · intro _
    rw [hpipeline]
    exact ⟨houtgoing, rfl⟩
  · intro hactive
    rw [hpipeline] at hactive
    cases hactive

/-- The end of a pipeline: what it owed was read. -/
theorem Orderly.drained {o : Operation} {c : Connection} {read : Nat} (hs : s.Orderly)
    (hcommand : o.command? = none)
    (hbooks : Books s.answers s.underway s.accepted (read + s.connection.pipeline.outstanding) c)
    (hread : read + s.connection.pipeline.outstanding = s.accepted.length)
    (hmode : SameMode { s.connection with pipeline := Pipeline.none } c)
    (houtgoing : c.outgoing = []) :
    (s.note o c).Orderly := by
  have haccepted : (s.note o c).accepted = s.accepted := by simp [note, hcommand]
  have hbooks' : Books s.answers s.underway (s.note o c).accepted
      (read + s.connection.pipeline.outstanding) c := by
    rw [haccepted]
    exact hbooks
  exact .settled hbooks' (by rw [haccepted, hread]) (hmode.inTransaction.trans hs.inTransaction)
    hmode.pipeline houtgoing

/-- A call outside a pipeline: its frame was read. -/
theorem Orderly.called {q : Request} {c : Connection} {read : Nat} (hs : s.Orderly)
    (hidle : s.connection.pipeline.active = false)
    (hread : read + s.connection.pipeline.outstanding = s.accepted.length)
    (hbooks : Books s.answers s.underway (s.accepted ++ [q.command]) (read + 1) c)
    (hmode : SameMode s.connection c) (houtgoing : c.outgoing = []) :
    (s.note (.call q) c).Orderly := by
  -- outside a pipeline everything that was accepted before has been read
  have hzero := (hs.idle hidle).2
  refine .settled hbooks ?_ (hmode.inTransaction.trans hs.inTransaction) ?_ houtgoing
  · show read + 1 = (s.accepted ++ [q.command]).length
    rw [List.length_append, List.length_singleton, ← hread, hzero]
  · exact hmode.pipeline.trans (Pipeline.eq_none hidle hzero)

/-- The start of a pipeline, which owes nothing yet. -/
theorem Orderly.started (hs : s.Orderly) (hidle : s.connection.pipeline.active = false) :
    (s.note .startPipeline { s.connection with pipeline := ⟨true, 0⟩ }).Orderly := by
  obtain ⟨read, hbooks, hread⟩ := hs.books
  -- nothing is owed from before, so the pipeline begins where reading stands
  have hread' : read = s.accepted.length := by rw [← hread, (hs.idle hidle).2, Nat.add_zero]
  have haccepted : s.accepted ++ Option.toList none = s.accepted := List.append_nil _
  refine ⟨⟨read, ?_, ?_⟩, hs.inTransaction, ?_, ?_⟩
  · show Books _ _ (s.accepted ++ Option.toList none) _ _
    rw [haccepted]
    exact ⟨hbooks.unread, hbooks.read_le, hbooks.sent⟩
  · show read + 0 = (s.accepted ++ Option.toList none).length
    rw [haccepted, hread', Nat.add_zero]
  · intro hidle
    cases hidle
  · intro _
    show s.accepted.length + 0 = (s.accepted ++ Option.toList none).length
    rw [haccepted, Nat.add_zero]

/-- A pipeline goes on: it owes one reply more. -/
theorem Orderly.written {command : Command} {c : Connection} {read : Nat} (hs : s.Orderly)
    (hactive : s.connection.pipeline.active = true)
    (hread : read + s.connection.pipeline.outstanding = s.accepted.length)
    (hbooks : Books s.answers s.underway (s.accepted ++ [command]) read c)
    (htransaction : c.inTransaction = s.connection.inTransaction)
    (hpipeline : c.pipeline = { s.connection.pipeline with
      outstanding := s.connection.pipeline.outstanding + 1 }) :
    (s.note (.write command) c).Orderly := by
  refine ⟨⟨read, hbooks, ?_⟩, htransaction.trans hs.inTransaction, ?_, ?_⟩
  · show read + c.pipeline.outstanding = (s.accepted ++ [command]).length
    rw [hpipeline, List.length_append, List.length_singleton, ← hread, Nat.add_assoc]
  · intro hidle
    have hactive' : c.pipeline.active = true := by rw [hpipeline, hactive]
    exact absurd (hactive'.symm.trans hidle) (by simp)
  · intro _
    show s.opened + c.pipeline.outstanding = (s.accepted ++ [command]).length
    rw [hpipeline, List.length_append, List.length_singleton, ← hs.pipeline hactive,
      Nat.add_assoc]

/-- An operation that ends either leaves an orderly session behind, or a tainted connection. -/
theorem Orderly.operate {o : Operation} (hs : s.Orderly) (hclean : s.connection.taint = none)
    (hplain : o.isPlain) :
    o.act.Ensures s.connection
      (fun _ c => (s.note o c).Orderly)
      (fun e c => Refused s.connection e c ∨ Taints e c ∨ e.AboutReply ∧ (s.note o c).Orderly) := by
  obtain ⟨read, hbooks, hread⟩ := hs.books
  cases o with
  | call q =>
    have hmulti : q.command.isMulti = false := by simpa [Operation.isPlain] using hplain
    refine (call_ensures hbooks hclean hs.inTransaction q hmulti).mono ?_ ?_
    · rintro v c ⟨hb, hidle, hmode, hout, -⟩
      exact hs.called hidle hread hb hmode hout
    · rintro e c (hrefused | htaints | ⟨hb, hidle, hmode, hout, habout, -⟩)
      · exact Or.inl hrefused
      · exact Or.inr (Or.inl htaints)
      · exact Or.inr (Or.inr ⟨habout, hs.called hidle hread hb hmode hout⟩)
  | startPipeline =>
    refine (startPipeline_ensures hclean).mono ?_ fun _ _ h => Or.inl h
    rintro _ c ⟨hidle, rfl⟩
    exact hs.started hidle
  | write command =>
    refine (write_ensures hbooks hclean command).mono ?_ fun _ _ h => h.imp_right Or.inl
    rintro _ c ⟨hb, hactive, -, htransaction, hpipeline⟩
    exact hs.written hactive hread hb htransaction hpipeline
  | endPipeline =>
    refine (endPipeline_ensures hbooks hclean).mono ?_ fun _ _ h => h.imp_right Or.inl
    rintro rs c ⟨hb, -, hmode, hout, -⟩
    exact hs.drained rfl hb hread hmode hout
  | endPipelineIgnored =>
    refine (endPipelineIgnored_ensures hbooks hclean).mono ?_ fun _ _ h => h.imp_right Or.inl
    rintro _ c ⟨hb, -, hmode, hout⟩
    exact hs.drained rfl hb hread hmode hout
  | _ => cases hplain

theorem Orderly.operated {o : Operation} (hs : s.Orderly) (hclean : s.connection.taint = none)
    (hplain : o.isPlain) (hstep : s.operate? o = some s') (hclean' : s'.connection.taint = none) :
    s'.Orderly := by
  have hensures := hs.operate hclean hplain
  unfold operate? at hstep
  split at hstep
  · rename_i v c hrun
    cases hstep
    exact hensures.ok_of_run hrun
  · rename_i e c hrun
    cases hstep
    rcases hensures.failed_of_run hrun with ⟨rfl, r, rfl⟩ | htaints | ⟨habout, horderly⟩
    · -- a refusal is not noted, for nothing has happened
      exact hs
    · refine absurd ?_ htaints
      split at hclean'
      · exact hclean'
      · exact hclean'
    · have hrefusal : e.isRefusal = false := by cases habout <;> rfl
      rw [hrefusal]
      exact horderly
  · cases hstep

/-! ## Everything that can happen -/

theorem Orderly.answer (hs : s.Orderly) (a : Answer) :
    Orderly { s with answers := s.answers ++ [a], underway := s.underway ++ a.bytes } := by
  obtain ⟨read, hbooks, hread⟩ := hs.books
  exact ⟨⟨read, hbooks.say a, hread⟩, hs.inTransaction, hs.idle, hs.pipeline⟩

/-- The stream changes in what has arrived, or in what can become of it. -/
theorem Orderly.restream {stream : Stream} {underway : Bytes} (hs : s.Orderly)
    (hsent : stream.sent = s.connection.stream.sent)
    (harrived : stream.arrived ++ underway = s.connection.stream.arrived ++ s.underway) :
    Orderly { s with connection := { s.connection with stream }, underway } := by
  obtain ⟨read, hbooks, hread⟩ := hs.books
  exact ⟨⟨read, hbooks.restream hsent harrived, hread⟩, hs.inTransaction, hs.idle, hs.pipeline⟩

theorem Orderly.step {e : Event} (hs : s.Orderly) (hclean : s.connection.taint = none)
    (hstep : s.step? e = some s') (hclean' : s'.connection.taint = none) : s'.Orderly := by
  cases e with
  | operate o =>
    simp only [step?] at hstep
    split at hstep
    · rename_i hplain
      exact hs.operated hclean hplain hstep hclean'
    · cases hstep
  | answer a =>
    cases hstep
    exact hs.answer a
  | receive bytes =>
    simp only [step?] at hstep
    split at hstep
    · rename_i hbytes
      cases hstep
      obtain ⟨later, hlater⟩ := List.isPrefixOf_iff_prefix.mp hbytes
      refine hs.restream rfl ?_
      rw [← hlater, List.drop_left]
      simp [Stream.receive]
    · cases hstep
  | finish =>
    cases hstep
    exact hs.restream rfl rfl
  | sever =>
    cases hstep
    exact hs.restream rfl rfl

/-! ## Runs -/

theorem act_of_tainted {o : Operation} {c : Connection} {reason : String} (hplain : o.isPlain)
    (htaint : c.taint = some reason) : o.act c = .error (.failed (.tainted reason)) c := by
  have husable := ensureUsable_of_tainted htaint
  cases o with
  | call q => exact Act.bind_of_error husable
  | startPipeline => exact Act.bind_of_error husable
  | write command => exact Act.bind_of_error husable
  | endPipeline => exact Act.bind_of_error (Act.bind_of_error husable)
  | endPipelineIgnored => exact Act.bind_of_error (Act.bind_of_error husable)
  | _ => cases hplain

theorem clean_of_step {e : Event} (hstep : s.step? e = some s')
    (hclean : s'.connection.taint = none) : s.connection.taint = none := by
  cases e with
  | operate o =>
    simp only [step?] at hstep
    split at hstep
    · rename_i hplain
      cases htaint : s.connection.taint with
      | none => rfl
      | some reason =>
        rw [operate?, act_of_tainted hplain htaint] at hstep
        cases hstep
        exact absurd (htaint.symm.trans hclean) (by simp)
    · cases hstep
  | answer a =>
    cases hstep
    exact hclean
  | receive bytes =>
    simp only [step?] at hstep
    split at hstep
    · cases hstep
      exact hclean
    · cases hstep
  | finish =>
    cases hstep
    exact hclean
  | sever =>
    cases hstep
    exact hclean

theorem iterates : Iterates step? run? where
  nil _ := rfl
  cons s e events := by
    rw [run?]
    cases s.step? e <;> rfl

theorem Orderly.run {events : List Event} (hs : s.Orderly) (hrun : s.run? events = some s')
    (hclean : s'.connection.taint = none) : s'.Orderly :=
  iterates.keep clean_of_step (fun _ => True)
    (fun _ hs hstep hclean hclean' => hs.step hclean hstep hclean') (fun _ _ => trivial) hs hrun
    hclean

/-! ## In step -/

/-- The first `n` frames of the server have been read and the others have not. -/
def HasRead (s : Session) (n : Nat) : Prop :=
  n ≤ s.answers.length ∧
    s.connection.inlet.unread s.connection.stream ++ s.underway = spell (s.answers.drop n)

end Session

end RespLink
