import RespLink.Proofs.Hub.Moves

/-!
# Taint — the first reason stays

Whatever happens to a hub that is tainted, it stays so, and for the reason that it was tainted for
at first. So a hub that is not tainted never was. A pool that is closed stays closed as well, and
whoever fails a hub has tainted it before they close the pool, and closed that before they fail
what is queued (`Staged`).
-/

namespace RespLink

namespace Hub

variable {h h' : Hub} {i j k : Nat} {c : Caller} {p : DrivePhase} {phase : CloserPhase} {m : Move}
  {reason : String}

theorem taint_tainted (ht : h.taint = some reason) (other : String) :
    (h.tainted other).taint = some reason := by
  simp [tainted, ht]

theorem taint_callerStep (hstep : CallerStep h i c h') (ht : h.taint = some reason) :
    h'.taint = some reason := by
  cases hstep with
  | fails e stream inlet _ => exact taint_tainted (h := { h with stream, inlet }) ht e.message
  | _ => exact ht

theorem taint_driveStep (hstep : DriveStep h j p h') (ht : h.taint = some reason) :
    h'.taint = some reason := by
  cases hstep with
  | taints => exact taint_tainted ht _
  | _ => exact ht

theorem taint_closerStep (hstep : CloserStep h k phase h') (ht : h.taint = some reason) :
    h'.taint = some reason := by
  cases hstep with
  | taints => exact taint_tainted ht closedByClient
  | _ => exact ht

/-- A hub that is tainted stays so, for the same reason. -/
theorem taint_step? (hstep : h.step? m = some h') (ht : h.taint = some reason) :
    h'.taint = some reason := by
  cases moved_of_step? hstep with
  | caller hc hstep => exact taint_callerStep hstep ht
  | closer hk hstep => exact taint_closerStep hstep ht
  | drive hj hstep | driveExpires hj hstep => exact taint_driveStep hstep ht
  | callerExpires e stream inlet hc hopens =>
    exact taint_tainted (h := { h with stream, inlet }) ht e.message
  | _ => exact ht

theorem taint_none_of_step? (hstep : h.step? m = some h') (hclean : h'.taint = none) :
    h.taint = none := by
  cases ht : h.taint with
  | none => rfl
  | some reason =>
    rw [taint_step? hstep ht] at hclean
    cases hclean

theorem isSome_taint_step? (hstep : h.step? m = some h') (ht : h.taint.isSome) :
    h'.taint.isSome := by
  obtain ⟨reason, ht⟩ := Option.isSome_iff_exists.mp ht
  simp [taint_step? hstep ht]

/-! ## The pool -/

theorem closed_driveStep (hstep : DriveStep h j p h') (hp : h.pool.closed) : h'.pool.closed := by
  cases hstep with
  | returns => exact h.pool.closed_giveBack.trans hp
  | closesPool => rfl
  | _ => exact hp

theorem closed_step? (hstep : h.step? m = some h') (hp : h.pool.closed) : h'.pool.closed := by
  cases moved_of_step? hstep with
  | caller hc hstep =>
    cases hstep with
    | moves pool phase hhold hopens hphase hpast htold hclosed _ => exact hclosed.trans hp
    | _ => exact hp
  | closer hk hstep =>
    cases hstep with
    | closesPool => rfl
    | _ => exact hp
  | drive hj hstep | driveExpires hj hstep => exact closed_driveStep hstep hp
  | leaves pool hc hopens hentered hclosed => exact hclosed.trans hp
  | _ => exact hp

/-! ## Stages -/

/-- What those who fail a hub have done when they come to a stage. -/
def reached (h : Hub) : FailureStage → Prop
  | .taint => True
  | .closePool => h.taint.isSome
  | .drain | .conclude => h.taint.isSome ∧ h.pool.closed

/-- Whoever fails a hub has come to their stage in order. -/
structure Staged (h : Hub) : Prop where
  drives : ∀ stage reason owed, .failing stage reason owed ∈ h.drives → h.reached stage
  closers : ∀ stage, .failing stage ∈ h.closers → h.reached stage
  closed : .done ∈ h.closers → h.reached .conclude

theorem reached_step? (hstep : h.step? m = some h') {stage : FailureStage}
    (hs : h.reached stage) : h'.reached stage := by
  cases stage with
  | taint => trivial
  | closePool => exact isSome_taint_step? hstep hs
  | drain => exact ⟨isSome_taint_step? hstep hs.1, closed_step? hstep hs.2⟩
  | conclude => exact ⟨isSome_taint_step? hstep hs.1, closed_step? hstep hs.2⟩

theorem exists_drives_of_driveStep (hstep : DriveStep h j p h')
    (hp : ∀ stage cause owed, p = .failing stage cause owed → h.reached stage) :
    ∃ next, h'.drives = h.drives.set j next ∧
      ∀ stage cause owed, next = .failing stage cause owed → h'.reached stage := by
  cases hstep with
  | @returns next =>
    refine ⟨next.phase, rfl, ?_⟩
    intro stage cause owed hnext
    cases next <;> cases hnext
    trivial
  | fails e stream inlet hi =>
    refine ⟨_, rfl, ?_⟩
    intro stage cause owed hnext
    cases hnext
    trivial
  | taints =>
    refine ⟨_, rfl, ?_⟩
    intro stage cause owed hnext
    cases hnext
    rfl
  | closesPool =>
    refine ⟨_, rfl, ?_⟩
    intro stage cause owed hnext
    cases hnext
    exact ⟨hp .closePool _ _ rfl, rfl⟩
  | drains =>
    refine ⟨_, rfl, ?_⟩
    intro stage cause owed hnext
    cases hnext
    exact hp .drain _ _ rfl
  | _ => exact ⟨_, rfl, by simp⟩

theorem exists_closers_of_closerStep (hstep : CloserStep h k phase h')
    (hp : ∀ stage, phase = .failing stage → h.reached stage) :
    ∃ next, h'.closers = h.closers.set k next ∧
      (∀ stage, next = .failing stage → h'.reached stage) ∧
      (next = .done → h'.reached .conclude) := by
  cases hstep with
  | taints =>
    refine ⟨_, rfl, ?_, by simp⟩
    intro stage hnext
    cases hnext
    rfl
  | closesPool =>
    refine ⟨_, rfl, ?_, by simp⟩
    intro stage hnext
    cases hnext
    exact ⟨hp .closePool rfl, rfl⟩
  | drains =>
    refine ⟨_, rfl, ?_, by simp⟩
    intro stage hnext
    cases hnext
    exact hp .drain rfl
  | shutsDown => exact ⟨_, rfl, by simp, fun _ => hp .conclude rfl⟩
  | ends => exact ⟨_, rfl, by simp, fun _ => hp .conclude rfl⟩

theorem Staged.start (settings : Settings) (network : Network) :
    Staged (Hub.start settings network) := by
  constructor <;> intros <;> contradiction

theorem Staged.step (hs : h.Staged) (hstep : h.step? m = some h') : h'.Staged := by
  -- whoever stays where they are has come to their stage before this step
  have hdrives : ∀ stage cause owed, .failing stage cause owed ∈ h.drives → h'.reached stage :=
    fun stage cause owed hmem => reached_step? hstep (hs.drives stage cause owed hmem)
  have hclosers : ∀ stage, .failing stage ∈ h.closers → h'.reached stage :=
    fun stage hmem => reached_step? hstep (hs.closers stage hmem)
  have hclosed : .done ∈ h.closers → h'.reached .conclude :=
    fun hmem => reached_step? hstep (hs.closed hmem)
  cases moved_of_step? hstep with
  | closes =>
    refine ⟨hdrives, ?_, ?_⟩
    · intro stage hmem
      rcases List.mem_append.mp hmem with hmem | hmem
      · exact hclosers stage hmem
      · cases List.mem_singleton.mp hmem
        trivial
    · intro hmem
      rcases List.mem_append.mp hmem with hmem | hmem
      · exact hclosed hmem
      · cases List.mem_singleton.mp hmem
  | caller hc hstep =>
    cases hstep with
    | starts =>
      refine ⟨?_, hclosers, hclosed⟩
      intro stage cause owed hmem
      rcases List.mem_append.mp hmem with hmem | hmem
      · exact hdrives stage cause owed hmem
      · cases List.mem_singleton.mp hmem
    | _ => exact ⟨hdrives, hclosers, hclosed⟩
  | closer hk hcloser =>
    obtain ⟨next, hnext, hstage, hdone⟩ := exists_closers_of_closerStep hcloser
      fun stage hphase => hs.closers stage (hphase ▸ List.mem_of_getElem? hk)
    have hsame := (closerStep_leaves hcloser).2.1
    refine ⟨hsame ▸ hdrives, ?_, ?_⟩
    · intro stage hmem
      rw [hnext] at hmem
      rcases List.mem_or_eq_of_mem_set hmem with hmem | hphase
      · exact hclosers stage hmem
      · exact hstage stage hphase.symm
    · intro hmem
      rw [hnext] at hmem
      rcases List.mem_or_eq_of_mem_set hmem with hmem | hphase
      · exact hclosed hmem
      · exact hdone hphase.symm
  | drive hj hdrive | driveExpires hj hdrive =>
    obtain ⟨next, hnext, hstage⟩ := exists_drives_of_driveStep hdrive
      fun stage cause owed hphase => hs.drives stage cause owed (hphase ▸ List.mem_of_getElem? hj)
    have hsame := (driveStep_leaves hdrive).2.1
    refine ⟨?_, hsame ▸ hclosers, hsame ▸ hclosed⟩
    intro stage cause owed hmem
    rw [hnext] at hmem
    rcases List.mem_or_eq_of_mem_set hmem with hmem | hphase
    · exact hdrives stage cause owed hmem
    · exact hstage stage cause owed hphase.symm
  | _ => exact ⟨hdrives, hclosers, hclosed⟩

end Hub

end RespLink
