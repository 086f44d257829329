import RespLink.Connection.Call
import RespLink.Proofs.Connection.Ensures

/-!
# What acts leave behind — properties that survive whatever becomes of an act

`Act.Ensures` tells the endings of an act apart. Some properties of a connection need no such
distinction: an act cannot break them by succeeding, by failing, or by being left while it waits.
`Act.Leaves` says that of one act at one connection.

Writing and reading change what is on the stream, what is buffered, and whether the stream is up.
A property that looks at nothing of that and that a taint cannot harm (`Connection.Lasting`)
survives all of it.
-/

namespace RespLink

namespace Act

variable {α β : Type}

/-- The connection as an act leaves it, also when it has to wait. -/
def after (act : Act α) (c : Connection) : Connection :=
  match act c with
  | .ok _ c' => c'
  | .error _ c' => c'

/-- The value that an act ends with, if it ends with one. -/
def value? (act : Act α) (c : Connection) : Option α :=
  match act c with
  | .ok a _ => some a
  | .error _ _ => none

/-- The error that an act ends with, if it ends with one. -/
def error? (act : Act α) (c : Connection) : Option Error :=
  match act c with
  | .error (.failed e) _ => some e
  | _ => none

/-- The act leaves a connection with `P` behind. -/
def Leaves (act : Act α) (c : Connection) (P : Connection → Prop) : Prop := P (act.after c)

theorem after_of_ok {act : Act α} {a : α} {c c' : Connection} (h : act c = .ok a c') :
    act.after c = c' := by
  rw [after, h]

theorem after_of_error {act : Act α} {halt : Halt} {c c' : Connection}
    (h : act c = .error halt c') : act.after c = c' := by
  rw [after, h]

namespace Leaves

variable {act : Act α} {c c' : Connection} {P : Connection → Prop}

theorem ok_of_run {a : α} (h : act.Leaves c P) (hrun : act c = .ok a c') : P c' := by
  rw [Leaves, after_of_ok hrun] at h
  exact h

theorem error_of_run {halt : Halt} (h : act.Leaves c P) (hrun : act c = .error halt c') :
    P c' := by
  rw [Leaves, after_of_error hrun] at h
  exact h

theorem of_ok {a : α} (hrun : act c = .ok a c') (h : P c') : act.Leaves c P := by
  rw [Leaves, after_of_ok hrun]
  exact h

theorem of_error {halt : Halt} (hrun : act c = .error halt c') (h : P c') : act.Leaves c P := by
  rw [Leaves, after_of_error hrun]
  exact h

theorem pure {a : α} (h : P c) : (Pure.pure a : Act α).Leaves c P := h

theorem halt {halt : Halt} (h : P c) : (throw halt : Act α).Leaves c P := h

theorem raise {e : Error} (h : P c) : (Connection.raise e : Act α).Leaves c P := h

theorem fail {e : Error} (h : P (c.tainted e)) : (Connection.fail e : Act α).Leaves c P := h

theorem get {next : Connection → Act β} (h : (next c).Leaves c P) :
    (MonadState.get >>= next).Leaves c P := h

theorem set (h : P c') : (MonadStateOf.set c' : Act Unit).Leaves c P := h

theorem update {f : Connection → Connection} (h : P (f c)) :
    (modify f : Act Unit).Leaves c P := h

/-- A sequence leaves `P` if its first part leaves something from which the rest does. -/
theorem bind {next : α → Act β} {Q : Connection → Prop} (h : act.Leaves c Q)
    (hQ : ∀ c', Q c' → P c') (hnext : ∀ a c', Q c' → (next a).Leaves c' P) :
    (act >>= next).Leaves c P := by
  cases hrun : act c with
  | ok a c' =>
    have hafter : (act >>= next).after c = (next a).after c' := by
      rw [after, bind_of_ok hrun, after]
    rw [Leaves, hafter]
    exact hnext a c' (h.ok_of_run hrun)
  | error halt c' => exact of_error (bind_of_error hrun) (hQ c' (h.error_of_run hrun))

/-- A sequence leaves what its parts leave, wherever it ends. -/
theorem seq {next : α → Act β} (h : act.Leaves c P)
    (hnext : ∀ a c', P c' → (next a).Leaves c' P) : (act >>= next).Leaves c P :=
  bind h (fun _ h => h) hnext

/-- The act goes on where it was not refused. -/
theorem guard {refused : Prop} [Decidable refused] {r : Refusal} {next : Unit → Act α} (h : P c)
    (hnext : ¬ refused → (next ()).Leaves c P) :
    (if refused then Connection.refuse r >>= next else next ()).Leaves c P := by
  split
  · exact of_error rfl h
  · rename_i hr
    exact hnext hr

theorem usable {next : Unit → Act α} (h : P c) (hnext : (next ()).Leaves c P) :
    (Connection.ensureUsable >>= next).Leaves c P := by
  cases htaint : c.taint with
  | none =>
    have hpass : Connection.ensureUsable c = .ok () c := by
      cases c
      cases htaint
      rfl
    rw [Leaves, after, bind_of_ok hpass]
    exact hnext
  | some reason => exact of_error (bind_of_error (Connection.ensureUsable_of_tainted htaint)) h

end Leaves

/-- What is known of an error, and what an act leaves behind anyway. -/
theorem Ensures.and_leaves {act : Act α} {c : Connection} {ok : α → Connection → Prop}
    {failed : Error → Connection → Prop} {P : Connection → Prop} (h : act.Ensures c ok failed)
    (hleaves : act.Leaves c P) :
    act.Ensures c (fun a c' => ok a c' ∧ P c') (fun e c' => failed e c' ∧ P c') := by
  unfold Ensures at h ⊢
  split
  · rename_i a c' hrun
    rw [hrun] at h
    exact ⟨h, hleaves.ok_of_run hrun⟩
  · rename_i e c' hrun
    rw [hrun] at h
    exact ⟨h, hleaves.error_of_run hrun⟩
  · trivial

end Act

namespace Connection

/-- A property of a connection that neither its stream nor a taint can change. -/
structure Lasting (P : Connection → Prop) : Prop where
  wire : ∀ {c : Connection} (stream : Stream) (inlet : Inlet) (outgoing : Bytes), P c →
    P { c with stream, inlet, outgoing }
  tainted : ∀ {c : Connection} (e : Error), P c → P (c.tainted e)

variable {P : Connection → Prop} {c : Connection}

theorem ensureUsable_leaves (h : P c) : ensureUsable.Leaves c P := by
  unfold ensureUsable
  apply Act.Leaves.get
  split
  · exact .raise h
  · exact .pure h

theorem flush_leaves (hP : Lasting P) (h : P c) : flush.Leaves c P := by
  unfold flush
  apply Act.Leaves.get
  split
  · exact .pure h
  · split
    · rename_i stream hsend
      exact .set (hP.wire stream c.inlet [] h)
    · rename_i fault hsend
      exact .fail (hP.tainted (.io fault) h)

theorem feed_leaves (hP : Lasting P) (h : P c) (command : Command) :
    (feed command).Leaves c P := by
  have hadd (c' : Connection) (h' : P c') :
      P { c' with outgoing := c'.outgoing ++ command.encode } :=
    hP.wire c'.stream c'.inlet _ h'
  unfold feed
  apply Act.Leaves.get
  dsimp only
  split
  · exact .seq (flush_leaves hP h) fun _ c' h' => .update (hadd c' h')
  · exact .update (hadd c h)

theorem transmit_leaves (hP : Lasting P) (h : P c) (command : Command) :
    (transmit command).Leaves c P :=
  .seq (feed_leaves hP h command) fun _ _ h' => flush_leaves hP h'

theorem nextFrame_leaves (hP : Lasting P) (h : P c) : nextFrame.Leaves c P := by
  unfold nextFrame
  apply Act.Leaves.get
  generalize c.inlet.next c.stream = found
  obtain ⟨intake, inlet, stream⟩ := found
  have hread : P { c with inlet, stream } := hP.wire stream inlet c.outgoing h
  refine .seq (.set hread) fun _ c' h' => ?_
  cases intake with
  | frame r => exact .pure h'
  | failure e => exact .pure h'
  | finished => exact .pure h'
  | pending =>
    dsimp only
    split
    · exact .pure h'
    · exact .halt h'

theorem readReply_leaves (hP : Lasting P) (h : P c) : readReply.Leaves c P := by
  refine .seq (nextFrame_leaves hP h) fun out c' h' => ?_
  cases out with
  | ok r => exact .pure h'
  | error e => exact .fail (hP.tainted e h')

end Connection

end RespLink
