import RespLink.Proofs.Connection.Ensures
import RespLink.Proofs.Connection.Leaves

/-!
# Endings — what holds when an act ends, in any of its three ways

`Act.Ensures` says what holds when an act has succeeded or failed, and nothing of one that waits:
as a rule it is resumed, and then it succeeds or fails. Where an act may be given up while it waits,
or where its waiting is what is asked for, that is not enough. `Act.Ends` has a place for each of
the three ends.
-/

namespace RespLink

namespace Act

variable {α β : Type}

/-- From `c` the act ends with a value and `ok`, with an error and `failed`, or it waits and `waits`
    holds meanwhile. -/
def Ends (act : Act α) (c : Connection) (ok : α → Connection → Prop)
    (failed : Error → Connection → Prop) (waits : Connection → Prop) : Prop :=
  match act c with
  | .ok a c' => ok a c'
  | .error (.failed e) c' => failed e c'
  | .error .waiting c' => waits c'

namespace Ends

variable {act : Act α} {c c' : Connection} {ok ok' : α → Connection → Prop}
  {failed failed' : Error → Connection → Prop} {waits waits' : Connection → Prop}

theorem failed_of_run {e : Error} (h : act.Ends c ok failed waits)
    (hrun : act c = .error (.failed e) c') : failed e c' := by
  rw [Ends, hrun] at h
  exact h

theorem exists_error (h : act.Ends c (fun _ _ => False) failed fun _ => False) :
    ∃ e c', act c = .error (.failed e) c' ∧ failed e c' := by
  unfold Ends at h
  split at h
  · exact h.elim
  · rename_i e c' hrun
    exact ⟨e, c', hrun, h⟩
  · exact h.elim

theorem mono (h : act.Ends c ok failed waits) (hok : ∀ a c', ok a c' → ok' a c')
    (hfailed : ∀ e c', failed e c' → failed' e c') (hwaits : ∀ c', waits c' → waits' c') :
    act.Ends c ok' failed' waits' := by
  unfold Ends at h ⊢
  split
  · rename_i a c' hrun
    rw [hrun] at h
    exact hok a c' h
  · rename_i e c' hrun
    rw [hrun] at h
    exact hfailed e c' h
  · rename_i c' hrun
    rw [hrun] at h
    exact hwaits c' h

theorem pure {a : α} (h : ok a c) : (Pure.pure a : Act α).Ends c ok failed waits := h

theorem raise {e : Error} (h : failed e c) :
    (Connection.raise e : Act α).Ends c ok failed waits := h

theorem fail {e : Error} (h : failed e (c.tainted e)) :
    (Connection.fail e : Act α).Ends c ok failed waits := h

theorem wait (h : waits c) : (throw .waiting : Act α).Ends c ok failed waits := h

theorem bind {next : α → Act β} {ok : β → Connection → Prop}
    (h : act.Ends c (fun a c' => (next a).Ends c' ok failed waits) failed waits) :
    (act >>= next).Ends c ok failed waits := by
  unfold Ends at h ⊢
  simp only [Bind.bind, EStateM.bind]
  split at h
  · rename_i a c' hrun
    rw [hrun]
    exact h
  · rename_i e c' hrun
    rw [hrun]
    exact h
  · rename_i c' hrun
    rw [hrun]
    exact h

/-- After an act that ends with `ok` another one may rely on it. -/
theorem seq {next : α → Act β} {ok' : β → Connection → Prop} (h : act.Ends c ok failed waits)
    (hnext : ∀ a c', ok a c' → (next a).Ends c' ok' failed waits) :
    (act >>= next).Ends c ok' failed waits :=
  bind (h.mono hnext (fun _ _ h => h) fun _ h => h)

theorem get {next : Connection → Act β} {ok : β → Connection → Prop}
    (h : (next c).Ends c ok failed waits) : (MonadState.get >>= next).Ends c ok failed waits := h

theorem set {ok : Unit → Connection → Prop} (h : ok () c') :
    (MonadStateOf.set c' : Act Unit).Ends c ok failed waits := h

theorem update {f : Connection → Connection} {ok : Unit → Connection → Prop} (h : ok () (f c)) :
    (modify f : Act Unit).Ends c ok failed waits := h

/-- The act goes on where it was not refused. -/
theorem guard {refused : Prop} [Decidable refused] {r : Refusal} {next : Unit → Act α}
    (hrefused : refused → failed (.usage r) c)
    (h : ¬ refused → (next ()).Ends c ok failed waits) :
    (if refused then Connection.refuse r >>= next else next ()).Ends c ok failed waits := by
  split
  · rename_i hr
    exact bind (raise (hrefused hr))
  · rename_i hr
    exact h hr

theorem usable {next : Unit → Act α} (hclean : c.taint = none)
    (h : (next ()).Ends c ok failed waits) :
    (Connection.ensureUsable >>= next).Ends c ok failed waits := by
  apply bind
  apply get
  rw [hclean]
  exact pure h

/-- What is known of each end of an act, whatever it was. -/
theorem leaves {P : Connection → Prop} (h : act.Ends c ok failed waits)
    (hok : ∀ a c', ok a c' → P c') (hfailed : ∀ e c', failed e c' → P c')
    (hwaits : ∀ c', waits c' → P c') : act.Leaves c P := by
  unfold Leaves after
  unfold Ends at h
  split at h
  · rename_i a c' hrun
    rw [hrun]
    exact hok a c' h
  · rename_i e c' hrun
    rw [hrun]
    exact hfailed e c' h
  · rename_i c' hrun
    rw [hrun]
    exact hwaits c' h

/-- Going on after a failure, an act ends or waits where it did before. -/
theorem attempt {ended : Except Error α → Connection → Prop}
    (h : act.Ends c (fun a => ended (.ok a)) (fun e => ended (.error e)) waits) :
    (∃ out c', Connection.attempt act c = .ok out c' ∧ ended out c') ∨
      ∃ c', Connection.attempt act c = .error .waiting c' ∧ waits c' := by
  unfold Ends at h
  cases hrun : act c with
  | ok a c' =>
    rw [hrun] at h
    exact .inl ⟨.ok a, c', by simp only [Connection.attempt, EStateM.run, hrun], h⟩
  | error halt c' =>
    rw [hrun] at h
    cases halt with
    | failed e => exact .inl ⟨.error e, c', by simp only [Connection.attempt, EStateM.run, hrun], h⟩
    | waiting => exact .inr ⟨c', by simp only [Connection.attempt, EStateM.run, hrun], h⟩

end Ends

end Act

end RespLink
