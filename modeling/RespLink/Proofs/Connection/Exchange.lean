import RespLink.Connection.Call
import RespLink.Proofs.Connection.Books

/-!
# Exchanges — a command and the frame that is read for it

A call, a queued command, the beginning of a transaction and its end have one thing in common: a
command is sent, and the next frame is read. `Connection.Exchanged` says what that does to a
connection and its books, and the lemmas below say that each of these acts is such an exchange, or
was turned down, or left the connection tainted. What becomes of the frame afterwards makes no
difference: an exchange whose reply is of no use is an exchange all the same.

The frame that is read is the first one that nobody has read. Whether it is the answer to the
command is another question; it is if nothing was owed before.
-/

namespace RespLink

namespace Command

/-- Whether a command is there to open or to end a transaction. -/
def isBracket (command : Command) : Bool :=
  command.isMulti || command.isExec || command.isDiscard

/-- Whether a connection counts itself inside a transaction after a command was answered. -/
def insideAfter (command : Command) (inside : Bool) (r : Reply) : Bool :=
  if command.isMulti then inside || !r.isError
  else if command.isExec || command.isDiscard then false
  else inside

theorem insideAfter_of_multi {command : Command} (hmulti : command.isMulti = true)
    (inside : Bool) (r : Reply) : command.insideAfter inside r = (inside || !r.isError) := by
  rw [insideAfter, if_pos hmulti]

theorem insideAfter_of_end {command : Command} (hmulti : command.isMulti = false)
    (hend : (command.isExec || command.isDiscard) = true) (inside : Bool) (r : Reply) :
    command.insideAfter inside r = false := by
  rw [insideAfter, if_neg (by simp [hmulti]), if_pos hend]

theorem insideAfter_of_other {command : Command} (h : command.isBracket = false)
    (inside : Bool) (r : Reply) : command.insideAfter inside r = inside := by
  simp only [isBracket, Bool.or_eq_false_iff] at h
  simp [insideAfter, h]

end Command

namespace Connection

/-- From `c` to `c'` a command was accepted and the next frame, `r`, was read. -/
structure Exchanged (answers : List Answer) (underway : Bytes) (accepted : List Command)
    (read : Nat) (c : Connection) (command : Command) (r : Reply) (c' : Connection) : Prop where
  books : Books answers underway (accepted ++ [command]) (read + 1) c'
  reply : (answers[read]?).map Answer.reply = some r
  inTransaction : c'.inTransaction = command.insideAfter c.inTransaction r
  pipeline : c'.pipeline = c.pipeline
  subscription : c'.subscription = c.subscription
  outgoing : c'.outgoing = []

variable {answers : List Answer} {underway : Bytes} {accepted : List Command} {read : Nat}
  {c : Connection} {command : Command}

/-- How an act that should be an exchange ends without a value. -/
def Missed (answers : List Answer) (underway : Bytes) (accepted : List Command) (read : Nat)
    (c : Connection) (command : Command) (e : Error) (c' : Connection) : Prop :=
  Refused c e c' ∨ Taints e c' ∨
    e.AboutReply ∧ ∃ r, Exchanged answers underway accepted read c command r c'

/-- A reply is read straight after its command was sent. -/
theorem exchange_ensures {α : Type} {next : Reply → Act α} {ok : α → Connection → Prop}
    {failed : Error → Connection → Prop} (h : Books answers underway accepted read c)
    (hfailed : ∀ e c', Taints e c' → failed e c')
    (hnext : ∀ r c', Books answers underway (accepted ++ [command]) (read + 1) c' →
      SameMode c c' → c'.outgoing = [] → (answers[read]?).map Answer.reply = some r →
      (next r).Ensures c' ok failed) :
    (transmit command >>= fun _ => readReply >>= next).Ensures c ok failed := by
  refine .bind ((transmit_ensures h command).mono ?_ hfailed)
  rintro _ c' ⟨hbooks, hmode, houtgoing⟩
  refine .bind ((readReply_ensures hbooks).mono ?_ hfailed)
  rintro r c'' ⟨hbooks', hmode', houtgoing', hr⟩
  exact hnext r c'' hbooks' (hmode.trans hmode') (houtgoing'.trans houtgoing) hr

/-- An exchange that has nothing to do with transactions. -/
theorem Exchanged.of_same {r : Reply} {c' : Connection}
    (hbooks : Books answers underway (accepted ++ [command]) (read + 1) c')
    (hmode : SameMode c c') (houtgoing : c'.outgoing = [])
    (hr : (answers[read]?).map Answer.reply = some r)
    (hinside : command.insideAfter c.inTransaction r = c.inTransaction) :
    Exchanged answers underway accepted read c command r c' where
  books := hbooks
  reply := hr
  inTransaction := hmode.inTransaction.trans hinside.symm
  pipeline := hmode.pipeline
  subscription := hmode.subscription
  outgoing := houtgoing

/-! ## Transactions -/

theorem beginTransaction_ensures (h : Books answers underway accepted read c)
    (hmulti : command.isMulti = true) :
    (beginTransaction command).Ensures c
      (fun r c' => Exchanged answers underway accepted read c command r c')
      (Missed answers underway accepted read c command) := by
  unfold beginTransaction
  refine .get (.guard (fun _ => Or.inl ⟨rfl, _, rfl⟩) fun hinside => ?_)
  have houtside : c.inTransaction = false := Bool.eq_false_iff.mpr hinside
  refine exchange_ensures h (fun _ _ ht => Or.inr (Or.inl ht)) ?_
  intro r c' hbooks hmode houtgoing hr
  have hafter := Command.insideAfter_of_multi hmulti c.inTransaction r
  rw [houtside, Bool.false_or] at hafter
  split
  · rename_i herror
    refine .pure (.of_same hbooks hmode houtgoing hr ?_)
    rw [houtside, hafter, herror]
    rfl
  · rename_i hfine
    refine .bind (.update (.pure ⟨⟨hbooks.unread, hbooks.read_le, hbooks.sent⟩, hr, ?_,
      hmode.pipeline, hmode.subscription, houtgoing⟩))
    rw [houtside, hafter, Bool.eq_false_iff.mpr hfine]
    rfl

theorem queue_ensures (h : Books answers underway accepted read c) (hclean : c.taint = none)
    (command : Command) :
    (queue command).Ensures c
      (fun status c' => Exchanged answers underway accepted read c command (.status status) c')
      (Missed answers underway accepted read c command) := by
  apply Act.Ensures.usable hclean
  refine .get (.guard (fun _ => Or.inl ⟨rfl, _, rfl⟩) fun _ => ?_)
  refine .guard (fun _ => Or.inl ⟨rfl, _, rfl⟩) fun hqueueable => ?_
  have hother : command.isBracket = false := by
    rw [Bool.not_eq_true, Bool.or_eq_false_iff] at hqueueable
    exact hqueueable.1
  refine exchange_ensures h (fun _ _ ht => Or.inr (Or.inl ht)) ?_
  intro r c' hbooks hmode houtgoing hr
  have hexchanged : Exchanged answers underway accepted read c command r c' :=
    .of_same hbooks hmode houtgoing hr (Command.insideAfter_of_other hother _ r)
  cases r with
  | status status =>
    -- the event that is reported has nothing to do with the stream
    exact .bind (.update (.pure ⟨⟨hbooks.unread, hbooks.read_le, hbooks.sent⟩, hr,
      hexchanged.inTransaction, hexchanged.pipeline, hexchanged.subscription, houtgoing⟩))
  | error message => exact .raise (Or.inr (Or.inr ⟨.server message, _, hexchanged⟩))
  | _ => exact .fail (Or.inr (Or.inr ⟨.unexpected _ _, _, hexchanged⟩))

/-- A command that would open or end a transaction is never queued. -/
theorem queue_refuses (hclean : c.taint = none) (h : command.isBracket = true) :
    (queue command).Ensures c (fun _ _ => False) (Refused c) := by
  apply Act.Ensures.usable hclean
  refine .get (.guard (fun _ => ⟨rfl, _, rfl⟩) fun _ => ?_)
  refine .guard (fun _ => ⟨rfl, _, rfl⟩) fun hqueueable => absurd ?_ hqueueable
  rw [Bool.or_eq_true]
  exact Or.inl h

theorem endTransaction_ensures (h : Books answers underway accepted read c)
    (hmulti : command.isMulti = false) (hend : (command.isExec || command.isDiscard) = true) :
    (endTransaction command).Ensures c
      (fun r c' => Exchanged answers underway accepted read c command r c') Taints := by
  refine .seq (transmit_ensures h command) ?_
  rintro _ c' ⟨hbooks, hmode, houtgoing⟩
  refine .bind (.update ?_)
  have hended : Books answers underway (accepted ++ [command]) read
      { c' with inTransaction := false } := ⟨hbooks.unread, hbooks.read_le, hbooks.sent⟩
  refine (readReply_ensures hended).mono ?_ fun _ _ ht => ht
  rintro r c'' ⟨hbooks', hmode', houtgoing', hr⟩
  exact ⟨hbooks', hr, hmode'.inTransaction.trans (Command.insideAfter_of_end hmulti hend _ r).symm,
    hmode'.pipeline.trans hmode.pipeline, hmode'.subscription.trans hmode.subscription,
    houtgoing'.trans houtgoing⟩

/-- What EXEC is answered with, as a reply again. -/
def executed : Option (List Reply) → Reply
  | some items => .array items
  | none => .nullArray

theorem execute_ensures (h : Books answers underway accepted read c)
    (hmulti : command.isMulti = false) (hend : (command.isExec || command.isDiscard) = true) :
    (execute command).Ensures c
      (fun items c' => Exchanged answers underway accepted read c command (executed items) c')
      (Missed answers underway accepted read c command) := by
  refine .bind ((endTransaction_ensures h hmulti hend).mono ?_ fun _ _ ht => Or.inr (Or.inl ht))
  intro r c' hexchanged
  cases r with
  | array items => exact .pure hexchanged
  | nullArray => exact .pure hexchanged
  | error message => exact .raise (Or.inr (Or.inr ⟨.server message, _, hexchanged⟩))
  | _ => exact .raise (Or.inr (Or.inr ⟨.unexpected _ _, _, hexchanged⟩))

theorem discard_ensures (h : Books answers underway accepted read c)
    (hmulti : command.isMulti = false) (hend : (command.isExec || command.isDiscard) = true) :
    (discard command).Ensures c
      (fun _ c' => ∃ r, Exchanged answers underway accepted read c command r c')
      (Missed answers underway accepted read c command) := by
  refine .bind ((endTransaction_ensures h hmulti hend).mono ?_ fun _ _ ht => Or.inr (Or.inl ht))
  intro r c' hexchanged
  unfold project
  split
  · exact .pure ⟨r, hexchanged⟩
  · rename_i e he
    exact .raise (Or.inr (Or.inr ⟨Shape.aboutReply_of_project he, r, hexchanged⟩))

/-! ## Calls -/

/-- A call reads the next frame and answers with it, but for DISCARD, which has an answer of its
    own. -/
theorem callReply_ensures (h : Books answers underway accepted read c) (command : Command) :
    (callReply command).Ensures c
      (fun r c' => ∃ r', Exchanged answers underway accepted read c command r' c' ∧
        (c.inTransaction = false → r = r'))
      (Missed answers underway accepted read c command) := by
  unfold callReply
  apply Act.Ensures.get
  dsimp only
  split
  · rename_i hmulti
    exact (beginTransaction_ensures h hmulti).mono (fun r c' hx => ⟨r, hx, fun _ => rfl⟩)
      fun _ _ hm => hm
  · rename_i hmulti
    have hmulti := Bool.eq_false_iff.mpr hmulti
    split
    · rename_i hexec
      rw [Bool.and_eq_true] at hexec
      refine .seq (execute_ensures h hmulti (by simp [hexec.1])) ?_
      intro items c' hexchanged
      exact .pure ⟨_, hexchanged, fun houtside => absurd (houtside.symm.trans hexec.2) (by simp)⟩
    · rename_i hexec
      split
      · rename_i hdiscard
        rw [Bool.and_eq_true] at hdiscard
        refine .seq (discard_ensures h hmulti (by simp [hdiscard.1])) ?_
        rintro _ c' ⟨r, hexchanged⟩
        exact .pure ⟨r, hexchanged,
          fun houtside => absurd (houtside.symm.trans hdiscard.2) (by simp)⟩
      · split
        · exact .raise (Or.inl ⟨rfl, _, rfl⟩)
        · -- outside a transaction EXEC and DISCARD are commands like any other
          rename_i hinside
          have houtside : c.inTransaction = false := Bool.eq_false_iff.mpr hinside
          have hinside (r : Reply) : command.insideAfter c.inTransaction r = c.inTransaction := by
            simp [Command.insideAfter, hmulti, houtside]
          have hexchange : (transmit command >>= fun _ => readReply >>= pure).Ensures c
              (fun r c' => ∃ r', Exchanged answers underway accepted read c command r' c' ∧
                (c.inTransaction = false → r = r'))
              (Missed answers underway accepted read c command) :=
            exchange_ensures h (fun _ _ ht => Or.inr (Or.inl ht))
              fun r c' hbooks hmode houtgoing hr =>
                .pure ⟨r, .of_same hbooks hmode houtgoing hr (hinside r), fun _ => rfl⟩
          simpa only [bind_pure] using hexchange

theorem anyCall_ensures (h : Books answers underway accepted read c) (hclean : c.taint = none)
    (q : Request) :
    (call q).Ensures c
      (fun v c' => c.pipeline.active = false ∧
        ∃ r, Exchanged answers underway accepted read c q.command r c' ∧
          (c.inTransaction = false → q.parse r = .ok v))
      (fun e c' => Refused c e c' ∨ Taints e c' ∨
        e.AboutReply ∧ c.pipeline.active = false ∧
          ∃ r, Exchanged answers underway accepted read c q.command r c') := by
  apply Act.Ensures.usable hclean
  refine .get (.guard (fun _ => Or.inl ⟨rfl, _, rfl⟩) fun _ => ?_)
  refine .guard (fun _ => Or.inl ⟨rfl, _, rfl⟩) fun _ => ?_
  refine .guard (fun _ => Or.inl ⟨rfl, _, rfl⟩) fun hactive => ?_
  have hidle : c.pipeline.active = false := Bool.eq_false_iff.mpr hactive
  refine .bind ((callReply_ensures h q.command).mono ?_ ?_)
  · rintro r c' ⟨r', hexchanged, hr⟩
    unfold project
    split
    · rename_i v hv
      refine .pure ⟨hidle, r', hexchanged, fun houtside => ?_⟩
      rw [← hr houtside]
      exact hv
    · rename_i e he
      exact .raise (Or.inr (Or.inr ⟨Shape.aboutReply_of_project he, hidle, r', hexchanged⟩))
  · rintro e c' (hrefused | htaints | ⟨habout, hexchanged⟩)
    · exact Or.inl hrefused
    · exact Or.inr (Or.inl htaints)
    · exact Or.inr (Or.inr ⟨habout, hidle, hexchanged⟩)

/-- Inside a transaction only those commands can be called that end it. -/
theorem outside_of_call {q : Request} {v : q.answer.Value} {c' : Connection}
    (hclean : c.taint = none) (hother : q.command.isBracket = false)
    (hrun : call q c = .ok v c') : c.inTransaction = false := by
  refine Bool.eq_false_iff.mpr fun hinside => ?_
  have hrefused : (call q).Ensures c (fun _ _ => False) (fun _ _ => True) := by
    simp only [Command.isBracket, Bool.or_eq_false_iff] at hother
    apply Act.Ensures.usable hclean
    refine .get (.guard (fun _ => trivial) fun _ => ?_)
    refine .guard (fun _ => trivial) fun _ => ?_
    refine .guard (fun _ => trivial) fun _ => .bind ?_
    unfold callReply
    apply Act.Ensures.get
    simp only [hother, hinside, Bool.false_and, Bool.false_eq_true, if_false, if_true]
    exact .raise trivial
  exact hrefused.ok_of_run hrun

end Connection

end RespLink
