/-!
# Runs — what holds of one step after the other

Several systems here take events one by one, and stop where an event is not possible. What is known
of them is known of states that are *clean* in some sense, and of a run only if it ends clean: then
it was clean all the way, since no step cleans anything up.

So an invariant has to be shown for steps between clean states only (`Iterates.keep`).

Where two systems are compared, what matters is that one of them can get somewhere (`Reaches`).
-/

namespace RespLink

/-- A function that does one step after the other, if each is possible in its turn. -/
structure Iterates {σ ε : Type} (step? : σ → ε → Option σ) (run? : σ → List ε → Option σ) :
    Prop where
  nil : ∀ s, run? s [] = some s
  cons : ∀ s e events, run? s (e :: events) = (step? s e).bind fun s' => run? s' events

namespace Iterates

variable {σ ε : Type} {step? : σ → ε → Option σ} {run? : σ → List ε → Option σ}
  {clean P : σ → Prop} {s s' : σ} {events : List ε}

theorem eq_of_nil (h : Iterates step? run?) (hrun : run? s [] = some s') : s = s' :=
  Option.some.inj ((h.nil s).symm.trans hrun)

theorem exists_of_cons {e : ε} (h : Iterates step? run?) (hrun : run? s (e :: events) = some s') :
    ∃ s₁, step? s e = some s₁ ∧ run? s₁ events = some s' :=
  Option.bind_eq_some_iff.mp ((h.cons s e events).symm.trans hrun)

theorem run?_append (h : Iterates step? run?) {events more : List ε}
    (hrun : run? s events = some s') : run? s (events ++ more) = run? s' more := by
  induction events generalizing s with
  | nil =>
    rw [h.eq_of_nil hrun]
    rfl
  | cons e events ih =>
    obtain ⟨s₁, hfirst, hrest⟩ := h.exists_of_cons hrun
    rw [List.cons_append, h.cons, hfirst]
    exact ih hrest

/-- What no step restores is not restored by a run. -/
theorem clean_of_run (h : Iterates step? run?)
    (hstep : ∀ {s s' : σ} {e : ε}, step? s e = some s' → clean s' → clean s)
    (hrun : run? s events = some s') (hclean : clean s') : clean s := by
  induction events generalizing s with
  | nil =>
    rw [h.eq_of_nil hrun]
    exact hclean
  | cons e events ih =>
    obtain ⟨s₁, hfirst, hrest⟩ := h.exists_of_cons hrun
    exact hstep hfirst (ih hrest)

/-- What every step between clean states keeps is kept by a run that ends clean. -/
theorem keep (h : Iterates step? run?)
    (hstep : ∀ {s s' : σ} {e : ε}, step? s e = some s' → clean s' → clean s)
    (allowed : ε → Prop)
    (hkeep : ∀ {s s' : σ} {e : ε}, allowed e → P s → step? s e = some s' → clean s → clean s' →
      P s')
    (hallowed : ∀ e ∈ events, allowed e) (hP : P s) (hrun : run? s events = some s')
    (hclean : clean s') : P s' := by
  induction events generalizing s with
  | nil =>
    rw [← h.eq_of_nil hrun]
    exact hP
  | cons e events ih =>
    obtain ⟨s₁, hfirst, hrest⟩ := h.exists_of_cons hrun
    have hclean₁ : clean s₁ := h.clean_of_run hstep hrest hclean
    refine ih (fun e he => hallowed e (List.mem_cons_of_mem _ he)) ?_ hrest
    exact hkeep (hallowed e List.mem_cons_self) hP hfirst (hstep hfirst hclean₁) hclean₁

/-- What every allowed step keeps is kept by a run of such steps. -/
theorem always_of_allowed (h : Iterates step? run?) (allowed : ε → Prop)
    (hkeep : ∀ {s s' : σ} {e : ε}, allowed e → P s → step? s e = some s' → P s')
    (hallowed : ∀ e ∈ events, allowed e) (hP : P s) (hrun : run? s events = some s') : P s' :=
  h.keep (fun _ (hclean : True) => hclean) allowed
    (fun ha hP hstep _ _ => hkeep ha hP hstep) hallowed hP hrun trivial

/-- What every step keeps is kept by a run. -/
theorem always (h : Iterates step? run?)
    (hkeep : ∀ {s s' : σ} {e : ε}, P s → step? s e = some s' → P s') (hP : P s)
    (hrun : run? s events = some s') : P s' :=
  h.always_of_allowed (fun _ => True) (fun _ hP hstep => hkeep hP hstep) (by simp) hP hrun

end Iterates

/-! ## What can be reached -/

/-- Some events lead from one state to another. -/
def Reaches {σ ε : Type} (run? : σ → List ε → Option σ) (s s' : σ) : Prop :=
  ∃ events, run? s events = some s'

namespace Reaches

variable {σ ε : Type} {step? : σ → ε → Option σ} {run? : σ → List ε → Option σ} {s s' s'' : σ}

theorem refl (h : Iterates step? run?) (s : σ) : Reaches run? s s := ⟨[], h.nil s⟩

theorem trans (h : Iterates step? run?) (hfirst : Reaches run? s s')
    (hrest : Reaches run? s' s'') : Reaches run? s s'' := by
  obtain ⟨events, hevents⟩ := hfirst
  obtain ⟨more, hmore⟩ := hrest
  exact ⟨events ++ more, (h.run?_append hevents).trans hmore⟩

theorem single (h : Iterates step? run?) {e : ε} (hstep : step? s e = some s') :
    Reaches run? s s' :=
  ⟨[e], by rw [h.cons, hstep]; exact h.nil s'⟩

theorem tail (h : Iterates step? run?) {e : ε} (hfirst : Reaches run? s s')
    (hstep : step? s' e = some s'') : Reaches run? s s'' :=
  hfirst.trans h (single h hstep)

end Reaches

end RespLink
