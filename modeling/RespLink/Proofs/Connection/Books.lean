import RespLink.Connection.Call
import RespLink.Connection.Pipeline
import RespLink.Proofs.Connection.Ensures
import RespLink.Proofs.Request.Encoding
import RespLink.Proofs.Shape.Project
import RespLink.Proofs.Stream.Answers

/-!
# Books — what acts do to what was asked and what was read

A connection knows how many replies a pipeline owes, but not how many commands it has accepted or
how many frames it has read. `Connection.Books` keeps both beside it: everything accepted was sent
or is kept back, and what can still be read are the answers from a certain one on. Writing moves
the first, reading the second, and each act below says by how much.

An act that ends with a fatal error leaves the books in disorder, but then the connection is
tainted. So that is all that is said of it.
-/

namespace RespLink

namespace Connection

/-- A connection that was given `accepted` and has read the first `read` of the server's
    `answers`, of which the bytes `underway` have not arrived yet. -/
structure Books (answers : List Answer) (underway : Bytes) (accepted : List Command) (read : Nat)
    (c : Connection) : Prop where
  unread : c.inlet.unread c.stream ++ underway = spell (answers.drop read)
  read_le : read ≤ answers.length
  /-- Commands are sent whole. -/
  sent : ∃ n, c.stream.sent = Command.encodeAll (accepted.take n) ∧
    c.outgoing = Command.encodeAll (accepted.drop n)

/-- Nothing has changed but what is on the stream, kept back for it or buffered from it. -/
structure SameMode (c c' : Connection) : Prop where
  taint : c'.taint = c.taint
  inTransaction : c'.inTransaction = c.inTransaction
  pipeline : c'.pipeline = c.pipeline
  subscription : c'.subscription = c.subscription

theorem SameMode.refl (c : Connection) : SameMode c c := ⟨rfl, rfl, rfl, rfl⟩

theorem SameMode.trans {c c' c'' : Connection} (h : SameMode c c') (h' : SameMode c' c'') :
    SameMode c c'' :=
  ⟨h'.taint.trans h.taint, h'.inTransaction.trans h.inTransaction, h'.pipeline.trans h.pipeline,
    h'.subscription.trans h.subscription⟩

/-- An error that turns an act down before it has done anything. -/
def Refused (c : Connection) (e : Error) (c' : Connection) : Prop := c' = c ∧ ∃ r, e = .usage r

/-- An error after which the connection is tainted. -/
def Taints (_ : Error) (c : Connection) : Prop := c.taint ≠ none

theorem taints_of_isFatal {e : Error} (c : Connection) (h : e.isFatal) :
    Taints e (c.tainted e) := by
  simp [Taints, tainted, h]

variable {answers : List Answer} {underway : Bytes} {accepted : List Command} {read : Nat}
  {c : Connection}

/-! ## The peer -/

/-- The server says one thing more, and its bytes are behind all others. -/
theorem Books.say (h : Books answers underway accepted read c) (a : Answer) :
    Books (answers ++ [a]) (underway ++ a.bytes) accepted read c := by
  refine ⟨?_, ?_, h.sent⟩
  · rw [List.drop_append_of_le_length h.read_le, spell_append, ← List.append_assoc, h.unread]
    simp
  · rw [List.length_append]
    exact Nat.le_add_right_of_le h.read_le

/-- The stream changes in what has arrived, or in what can become of it. -/
theorem Books.restream {stream : Stream} {underway' : Bytes}
    (h : Books answers underway accepted read c) (hsent : stream.sent = c.stream.sent)
    (harrived : stream.arrived ++ underway' = c.stream.arrived ++ underway) :
    Books answers underway' accepted read { c with stream } := by
  refine ⟨?_, h.read_le, ?_⟩
  · rw [← h.unread]
    simp only [Inlet.unread, List.append_assoc, harrived]
  · obtain ⟨n, hn, houtgoing⟩ := h.sent
    exact ⟨n, hsent.trans hn, houtgoing⟩

/-! ## Writing -/

theorem flush_ensures (h : Books answers underway accepted read c) :
    flush.Ensures c
      (fun _ c' => Books answers underway accepted read c' ∧ SameMode c c' ∧ c'.outgoing = [])
      Taints := by
  unfold flush
  apply Act.Ensures.get
  split
  · rename_i hempty
    exact .pure ⟨h, .refl c, List.isEmpty_iff.mp hempty⟩
  · split
    · rename_i stream hsend
      obtain ⟨n, hsent, houtgoing⟩ := h.sent
      obtain ⟨-, rfl⟩ := Stream.send_ok hsend
      -- what was kept back has gone out, and with it the last of what was accepted
      refine .set ⟨⟨h.unread, h.read_le, accepted.length, ?_, ?_⟩, ⟨rfl, rfl, rfl, rfl⟩, rfl⟩
      · rw [hsent, houtgoing, ← Command.encodeAll_append, List.take_append_drop, List.take_length]
      · rw [List.drop_length]
        rfl
    · exact .fail (taints_of_isFatal c rfl)

theorem Books.feed (h : Books answers underway accepted read c) (command : Command) :
    Books answers underway (accepted ++ [command]) read
      { c with outgoing := c.outgoing ++ command.encode } := by
  obtain ⟨hunread, hle, n, hsent, houtgoing⟩ := h
  refine ⟨hunread, hle, min n accepted.length, ?_, ?_⟩
  · rw [List.take_append_of_le_length (Nat.min_le_right _ _), ← List.take_eq_take_min]
    exact hsent
  · rw [List.drop_append_of_le_length (Nat.min_le_right _ _), ← List.drop_eq_drop_min,
      Command.encodeAll_append, Command.encodeAll_singleton]
    exact congrArg (· ++ command.encode) houtgoing

theorem feed_ensures (h : Books answers underway accepted read c) (command : Command) :
    (feed command).Ensures c
      (fun _ c' => Books answers underway (accepted ++ [command]) read c' ∧ SameMode c c')
      Taints := by
  unfold feed
  apply Act.Ensures.get
  dsimp only
  split
  · refine .seq (flush_ensures h) ?_
    rintro _ c' ⟨hbooks, hmode, -⟩
    exact .update ⟨hbooks.feed command, hmode.taint, hmode.inTransaction, hmode.pipeline,
      hmode.subscription⟩
  · exact .update ⟨h.feed command, rfl, rfl, rfl, rfl⟩

theorem transmit_ensures (h : Books answers underway accepted read c) (command : Command) :
    (transmit command).Ensures c
      (fun _ c' => Books answers underway (accepted ++ [command]) read c' ∧ SameMode c c' ∧
        c'.outgoing = [])
      Taints := by
  refine .seq (feed_ensures h command) ?_
  rintro _ c' ⟨hbooks, hmode⟩
  refine (flush_ensures hbooks).mono ?_ fun _ _ h => h
  rintro _ c'' ⟨hbooks', hmode', houtgoing⟩
  exact ⟨hbooks', hmode.trans hmode', houtgoing⟩

/-! ## Reading -/

theorem nextFrame_ensures (h : Books answers underway accepted read c) :
    nextFrame.Ensures c
      (fun out c' => SameMode c c' ∧ c'.outgoing = c.outgoing ∧
        match out with
        | .ok r => Books answers underway accepted (read + 1) c' ∧
          (answers[read]?).map Answer.reply = some r
        | .error e => Books answers underway accepted read c' ∧ e.isFatal)
      fun _ _ => False := by
  unfold nextFrame
  apply Act.Ensures.get
  have hlooked := c.inlet.next_looked c.stream
  generalize c.inlet.next c.stream = found at hlooked ⊢
  obtain ⟨intake, inlet, stream⟩ := found
  obtain ⟨arrived, harrived⟩ := hlooked.stream
  cases harrived
  -- what is no frame takes nothing off the answers
  have hsame (hother : ∀ r, intake ≠ .frame r) : Books answers underway accepted read
      { c with inlet, stream := { c.stream with arrived } } :=
    ⟨(congrArg (· ++ underway) (hlooked.other hother)).trans h.unread, h.read_le, h.sent⟩
  refine .bind (.set ?_)
  cases intake with
  | frame r =>
    obtain ⟨a, tail, hdrop, ha, hrest⟩ := exists_answer_of_read h.unread (hlooked.frame r rfl)
    -- the frame is the first answer that was not read, and what is left are those after it
    obtain ⟨htail, hlt⟩ := drop_succ_of_drop hdrop
    have hread : (answers[read]?).map Answer.reply = some r := by
      rw [getElem?_of_drop hdrop, Option.map_some, ha]
    exact .pure ⟨⟨rfl, rfl, rfl, rfl⟩, rfl, ⟨by rw [hrest, htail], hlt, h.sent⟩, hread⟩
  | failure e => exact .pure ⟨⟨rfl, rfl, rfl, rfl⟩, rfl, hsame (by simp), hlooked.fatal e rfl⟩
  | finished => exact .pure ⟨⟨rfl, rfl, rfl, rfl⟩, rfl, hsame (by simp), rfl⟩
  | pending =>
    dsimp only
    split
    · exact .pure ⟨⟨rfl, rfl, rfl, rfl⟩, rfl, hsame (by simp), rfl⟩
    · trivial

theorem readReply_ensures (h : Books answers underway accepted read c) :
    readReply.Ensures c
      (fun r c' => Books answers underway accepted (read + 1) c' ∧ SameMode c c' ∧
        c'.outgoing = c.outgoing ∧ (answers[read]?).map Answer.reply = some r)
      Taints := by
  refine .bind ((nextFrame_ensures h).mono ?_ fun _ _ h => h.elim)
  rintro (e | r) c' ⟨hmode, houtgoing, hout⟩
  · exact .fail (taints_of_isFatal c' hout.2)
  · exact .pure ⟨hout.1, hmode, houtgoing, hout.2⟩

theorem collect_ensures (count : Nat) (done : List Reply)
    (h : Books answers underway accepted read c) :
    (collect count done).Ensures c
      (fun rs c' => Books answers underway accepted (read + count) c' ∧ SameMode c c' ∧
        c'.outgoing = c.outgoing ∧
        rs = done.reverse ++ ((answers.drop read).take count).map Answer.reply)
      Taints := by
  induction count generalizing done read c with
  | zero => exact .pure ⟨h, .refl c, rfl, by simp⟩
  | succ count ih =>
    refine .seq (readReply_ensures h) ?_
    rintro r c' ⟨hbooks, hmode, houtgoing, hr⟩
    refine (ih (r :: done) hbooks).mono ?_ fun _ _ h => h
    rintro rs c'' ⟨hbooks', hmode', houtgoing', hrs⟩
    refine ⟨?_, hmode.trans hmode', houtgoing'.trans houtgoing, ?_⟩
    · rw [Nat.add_comm count 1, ← Nat.add_assoc]
      exact hbooks'
    · obtain ⟨a, ha, rfl⟩ := Option.map_eq_some_iff.mp hr
      obtain ⟨hlt, ha'⟩ := List.getElem?_eq_some_iff.mp ha
      rw [hrs, List.drop_eq_getElem_cons hlt, ha']
      simp

/-! ## Pipelines -/

theorem startPipeline_ensures (hclean : c.taint = none) :
    startPipeline.Ensures c
      (fun _ c' => c.pipeline.active = false ∧ c' = { c with pipeline := ⟨true, 0⟩ })
      (Refused c) := by
  apply Act.Ensures.usable hclean
  refine .get (.guard (fun _ => ⟨rfl, _, rfl⟩) fun hactive => ?_)
  refine .guard (fun _ => ⟨rfl, _, rfl⟩) fun _ => ?_
  exact .set ⟨Bool.eq_false_iff.mpr hactive, rfl⟩

theorem write_ensures (h : Books answers underway accepted read c) (hclean : c.taint = none)
    (command : Command) :
    (write command).Ensures c
      (fun _ c' => Books answers underway (accepted ++ [command]) read c' ∧
        c.pipeline.active = true ∧ c'.taint = none ∧ c'.inTransaction = c.inTransaction ∧
        c'.pipeline = { c.pipeline with outstanding := c.pipeline.outstanding + 1 })
      (fun e c' => Refused c e c' ∨ Taints e c') := by
  apply Act.Ensures.usable hclean
  refine .get (.guard (fun _ => Or.inl ⟨rfl, _, rfl⟩) fun hactive => ?_)
  refine .guard (fun _ => Or.inl ⟨rfl, _, rfl⟩) fun _ => ?_
  refine .bind ((feed_ensures h command).mono ?_ fun _ _ h => Or.inr h)
  rintro _ c' ⟨hbooks, hmode⟩
  refine .update ⟨⟨hbooks.unread, hbooks.read_le, hbooks.sent⟩, ?_, ?_, hmode.inTransaction, ?_⟩
  · simpa using hactive
  · exact hmode.taint.trans hclean
  · show { c'.pipeline with outstanding := c'.pipeline.outstanding + 1 } = _
    rw [hmode.pipeline]

theorem finishPipeline_ensures (h : Books answers underway accepted read c)
    (hclean : c.taint = none) :
    finishPipeline.Ensures c
      (fun count c' => Books answers underway accepted read c' ∧ c.pipeline.active = true ∧
        count = c.pipeline.outstanding ∧ SameMode { c with pipeline := Pipeline.none } c' ∧
        c'.outgoing = [])
      (fun e c' => Refused c e c' ∨ Taints e c') := by
  apply Act.Ensures.usable hclean
  refine .get (.guard (fun _ => Or.inl ⟨rfl, _, rfl⟩) fun hactive => ?_)
  -- the pipeline is over even if its last commands cannot be sent
  have hended : Books answers underway accepted read { c with pipeline := Pipeline.none } :=
    ⟨h.unread, h.read_le, h.sent⟩
  refine .bind (.set (.bind ((flush_ensures hended).mono ?_ fun _ _ h => Or.inr h)))
  rintro _ c' ⟨hbooks, hmode, houtgoing⟩
  exact .pure ⟨hbooks, by simpa using hactive, rfl, hmode, houtgoing⟩

theorem endPipeline_ensures (h : Books answers underway accepted read c) (hclean : c.taint = none) :
    endPipeline.Ensures c
      (fun rs c' => Books answers underway accepted (read + c.pipeline.outstanding) c' ∧
        c.pipeline.active = true ∧ SameMode { c with pipeline := Pipeline.none } c' ∧
        c'.outgoing = [] ∧
        rs = ((answers.drop read).take c.pipeline.outstanding).map Answer.reply)
      (fun e c' => Refused c e c' ∨ Taints e c') := by
  refine .seq (finishPipeline_ensures h hclean) ?_
  rintro _ c' ⟨hbooks, hactive, rfl, hmode, houtgoing⟩
  refine (collect_ensures _ [] hbooks).mono ?_ fun _ _ h => Or.inr h
  rintro rs c'' ⟨hbooks', hmode', houtgoing', hrs⟩
  exact ⟨hbooks', hactive, hmode.trans hmode', houtgoing'.trans houtgoing, hrs⟩

/-- Replies that nobody wants are read like those that somebody does. -/
theorem endPipelineIgnored_eq : endPipelineIgnored = endPipeline >>= fun _ => pure () := by
  simp only [endPipelineIgnored, endPipeline, bind_assoc]

theorem endPipelineIgnored_ensures (h : Books answers underway accepted read c)
    (hclean : c.taint = none) :
    endPipelineIgnored.Ensures c
      (fun _ c' => Books answers underway accepted (read + c.pipeline.outstanding) c' ∧
        c.pipeline.active = true ∧ SameMode { c with pipeline := Pipeline.none } c' ∧
        c'.outgoing = [])
      (fun e c' => Refused c e c' ∨ Taints e c') := by
  rw [endPipelineIgnored_eq]
  refine .seq (endPipeline_ensures h hclean) ?_
  rintro rs c' ⟨hbooks, hactive, hmode, houtgoing, -⟩
  exact .pure ⟨hbooks, hactive, hmode, houtgoing⟩

/-! ## Calls -/

/-- A call reads the next answer as what it asked for. If that fails, the answer has been read
    all the same. -/
theorem call_ensures (h : Books answers underway accepted read c) (hclean : c.taint = none)
    (htransaction : c.inTransaction = false) (q : Request) (hmulti : q.command.isMulti = false) :
    (call q).Ensures c
      (fun v c' => Books answers underway (accepted ++ [q.command]) (read + 1) c' ∧
        c.pipeline.active = false ∧ SameMode c c' ∧ c'.outgoing = [] ∧
        ∃ r, (answers[read]?).map Answer.reply = some r ∧ q.parse r = .ok v)
      (fun e c' => Refused c e c' ∨ Taints e c' ∨
        Books answers underway (accepted ++ [q.command]) (read + 1) c' ∧
        c.pipeline.active = false ∧ SameMode c c' ∧ c'.outgoing = [] ∧ e.AboutReply ∧
        ∃ r, (answers[read]?).map Answer.reply = some r ∧ q.parse r = .error e) := by
  apply Act.Ensures.usable hclean
  refine .get (.guard (fun _ => Or.inl ⟨rfl, _, rfl⟩) fun _ => ?_)
  refine .guard (fun _ => Or.inl ⟨rfl, _, rfl⟩) fun _ => ?_
  refine .guard (fun _ => Or.inl ⟨rfl, _, rfl⟩) fun hactive => ?_
  have hidle : c.pipeline.active = false := Bool.eq_false_iff.mpr hactive
  have hreply : (callReply q.command).Ensures c
      (fun r c' => Books answers underway (accepted ++ [q.command]) (read + 1) c' ∧
        SameMode c c' ∧ c'.outgoing = [] ∧ (answers[read]?).map Answer.reply = some r)
      Taints := by
    unfold callReply
    apply Act.Ensures.get
    simp only [hmulti, htransaction, Bool.and_false, Bool.false_eq_true, if_false]
    refine .seq (transmit_ensures h q.command) ?_
    rintro _ c' ⟨hbooks, hmode, houtgoing⟩
    refine (readReply_ensures hbooks).mono ?_ fun _ _ h => h
    rintro r c'' ⟨hbooks', hmode', houtgoing', hr⟩
    exact ⟨hbooks', hmode.trans hmode', houtgoing'.trans houtgoing, hr⟩
  refine .bind (hreply.mono ?_ fun _ _ h => Or.inr (Or.inl h))
  rintro r c' ⟨hbooks, hmode, houtgoing, hr⟩
  -- from here on the reply is off the stream, whatever becomes of it
  unfold project
  split
  · rename_i v hv
    exact .pure ⟨hbooks, hidle, hmode, houtgoing, r, hr, hv⟩
  · rename_i e he
    exact .raise (Or.inr (Or.inr ⟨hbooks, hidle, hmode, houtgoing,
      Shape.aboutReply_of_project he, r, hr, he⟩))

end Connection

end RespLink
