import RespLink.Connection.Basic

/-!
# What acts ensure — reasoning about one step after the other

An act is a sequence of smaller ones, and what it does follows from what they do. `Act.Ensures`
says what holds when an act has ended, with a value or with an error; the lemmas below take a
sequence apart, one for each thing an act can be made of. An act that has to wait has not ended,
so nothing is said about it.
-/

namespace RespLink

namespace Act

variable {α β : Type}

/-- From `c` the act ends with a value and `ok`, or with an error and `failed`, if it ends. -/
def Ensures (act : Act α) (c : Connection) (ok : α → Connection → Prop)
    (failed : Error → Connection → Prop) : Prop :=
  match act c with
  | .ok a c' => ok a c'
  | .error (.failed e) c' => failed e c'
  | .error .waiting _ => True

namespace Ensures

variable {act : Act α} {c c' : Connection} {ok ok' : α → Connection → Prop}
  {failed failed' : Error → Connection → Prop}

theorem ok_of_run {a : α} (h : act.Ensures c ok failed) (hrun : act c = .ok a c') : ok a c' := by
  rw [Ensures, hrun] at h
  exact h

theorem failed_of_run {e : Error} (h : act.Ensures c ok failed)
    (hrun : act c = .error (.failed e) c') : failed e c' := by
  rw [Ensures, hrun] at h
  exact h

theorem mono (h : act.Ensures c ok failed) (hok : ∀ a c', ok a c' → ok' a c')
    (hfailed : ∀ e c', failed e c' → failed' e c') : act.Ensures c ok' failed' := by
  unfold Ensures at h ⊢
  split
  · rename_i a c' hrun
    rw [hrun] at h
    exact hok a c' h
  · rename_i e c' hrun
    rw [hrun] at h
    exact hfailed e c' h
  · trivial

theorem pure {a : α} (h : ok a c) : (Pure.pure a : Act α).Ensures c ok failed := h

theorem raise {e : Error} (h : failed e c) : (Connection.raise e : Act α).Ensures c ok failed := h

theorem fail {e : Error} (h : failed e (c.tainted e)) :
    (Connection.fail e : Act α).Ensures c ok failed := h

theorem bind {next : α → Act β} {ok : β → Connection → Prop}
    (h : act.Ensures c (fun a c' => (next a).Ensures c' ok failed) failed) :
    (act >>= next).Ensures c ok failed := by
  unfold Ensures at h ⊢
  simp only [Bind.bind, EStateM.bind]
  split at h
  · rename_i a c' hrun
    rw [hrun]
    exact h
  · rename_i e c' hrun
    rw [hrun]
    exact h
  · rename_i c' hrun
    rw [hrun]
    trivial

/-- After an act that ensures `ok` another one may rely on it. -/
theorem seq {next : α → Act β} {ok' : β → Connection → Prop} (h : act.Ensures c ok failed)
    (hnext : ∀ a c', ok a c' → (next a).Ensures c' ok' failed) :
    (act >>= next).Ensures c ok' failed :=
  bind (h.mono hnext fun _ _ hfailed => hfailed)

theorem get {next : Connection → Act β} {ok : β → Connection → Prop}
    (h : (next c).Ensures c ok failed) : (MonadState.get >>= next).Ensures c ok failed := h

theorem set {ok : Unit → Connection → Prop} (h : ok () c') :
    (MonadStateOf.set c' : Act Unit).Ensures c ok failed := h

theorem update {f : Connection → Connection} {ok : Unit → Connection → Prop} (h : ok () (f c)) :
    (modify f : Act Unit).Ensures c ok failed := h

/-- The act goes on where it was not refused. -/
theorem guard {refused : Prop} [Decidable refused] {r : Refusal} {next : Unit → Act α}
    (hrefused : refused → failed (.usage r) c) (h : ¬ refused → (next ()).Ensures c ok failed) :
    (if refused then Connection.refuse r >>= next else next ()).Ensures c ok failed := by
  split
  · rename_i hr
    exact bind (raise (hrefused hr))
  · rename_i hr
    exact h hr

theorem usable {next : Unit → Act α} (hclean : c.taint = none)
    (h : (next ()).Ensures c ok failed) :
    (Connection.ensureUsable >>= next).Ensures c ok failed := by
  apply bind
  apply get
  rw [hclean]
  exact pure h

end Ensures

theorem bind_of_ok {act : Act α} {next : α → Act β} {a : α} {c c' : Connection}
    (h : act c = .ok a c') : (act >>= next) c = next a c' := by
  show EStateM.bind act next c = _
  rw [EStateM.bind, h]

theorem bind_of_error {act : Act α} {next : α → Act β} {c c' : Connection} {halt : Halt}
    (h : act c = .error halt c') : (act >>= next) c = .error halt c' := by
  show EStateM.bind act next c = _
  rw [EStateM.bind, h]

end Act

/-- What begins with asking whether the connection is usable ends there on a tainted one. -/
theorem Connection.ensureUsable_of_tainted {c : Connection} {reason : String}
    (h : c.taint = some reason) : ensureUsable c = .error (.failed (.tainted reason)) c := by
  cases c
  cases h
  rfl

end RespLink
