import RespLink.Hub.Schedule
import RespLink.Proofs.Hub.Openings

/-!
# Disconnection — what a taint does to the link

A hub that is tainted says that it is disconnected, and once somebody has closed it no stream is
left on which it could still send. Both are true of a hub that was tainted while nobody was
opening the stream. Whoever opens it meanwhile does not look back, though: it says in the end that
the hub is connected, and has a stream that was not there to be shut down when the hub was closed
(`connected_after_close`).

The first reason for a taint stays in any case.
-/

namespace RespLink

open Hub

namespace Hub

/-- The stream that a hub has in its keeping. One that could not be opened is given up. -/
def held? (h : Hub) : Option Stream := if h.link = .vacant then none else h.stream

/-- Whether a step that taints a hub does so while nobody opens the stream or waits for it. -/
def taintsSettled (h h' : Hub) : Bool := h.taint.isSome || h'.taint.isNone || h'.settled

variable {h h' : Hub} {i j k : Nat} {c : Caller} {m : Move} {reason : String}

theorem state_of_driveStep {p : DrivePhase} (hstep : DriveStep h j p h') (hclean : h.taint = none)
    (ht : h'.taint = some reason) : h'.state = .disconnected := by
  cases hstep with
  | taints => rfl
  | _ => exact absurd (hclean.symm.trans ht) (by simp)

/-- Whatever taints a hub disconnects it. -/
theorem state_of_tainted (hstep : h.step? m = some h') (hclean : h.taint = none)
    (ht : h'.taint = some reason) : h'.state = .disconnected := by
  have hunchanged (hsame : h'.taint = h.taint) : h'.state = .disconnected := by
    rw [hsame, hclean] at ht
    cases ht
  cases moved_of_step? hstep with
  | caller hc hstep =>
    cases hstep with
    | fails e stream inlet hopens => rfl
    | _ => exact hunchanged rfl
  | closer hk hstep =>
    cases hstep with
    | taints => rfl
    | _ => exact hunchanged rfl
  | drive hj hstep | driveExpires hj hstep => exact state_of_driveStep hstep hclean ht
  | callerExpires e stream inlet hc hopens => rfl
  | _ => exact hunchanged rfl

/-! ## Streams that are shut -/

/-- Whether nothing can be sent on a stream any more, if there is one. -/
def ShutIfAny (stream : Option Stream) : Prop := ∀ s, stream = some s → s.shut

theorem ShutIfAny.of_outgoing {stream stream' : Option Stream} (hs : ShutIfAny stream)
    (hsame : stream'.map Stream.outgoing = stream.map Stream.outgoing) : ShutIfAny stream' := by
  rintro s' rfl
  rw [Option.map_some] at hsame
  obtain ⟨s, hstream, hout⟩ := Option.map_eq_some_iff.mp hsame.symm
  have hshut : s.shut = s'.shut := congrArg Prod.snd hout
  rw [← hshut]
  exact hs s hstream

theorem ShutIfAny.drive {p : DrivePhase} (hs : ShutIfAny h.stream) (hstep : DriveStep h j p h') :
    ShutIfAny h'.stream := by
  cases hstep with
  | sends hstream hsend => exact absurd (Or.inl (hs _ hstream)) (Stream.send_ok hsend).1
  | completes stream inlet hi hsame => exact hs.of_outgoing hsame
  | fails e stream inlet hi hnone hsame => exact hs.of_outgoing hsame
  | _ => exact hs

theorem Ended.shut (he : h.Ended reason) (hmoved : Moved h m h') (hs : ShutIfAny h.stream) :
    ShutIfAny h'.stream := by
  cases hmoved with
  | caller hc hstep =>
    have hopens := he.not_opens hc
    cases hstep with
    | fails e stream inlet hopens' => exact absurd hopens' hopens
    | dials | greets | welcomed => exact absurd rfl hopens
    | _ => exact hs
  | closer hk hstep =>
    cases hstep with
    | shutsDown hup hfree =>
      intro s hmap
      obtain ⟨s₀, -, rfl⟩ := Option.map_eq_some_iff.mp hmap
      rfl
    | _ => exact hs
  | drive hj hstep | driveExpires hj hstep => exact hs.drive hstep
  | callerExpires e stream inlet hc hopens => exact absurd hopens (he.not_opens hc)
  | hangsUp hc hopens => exact absurd hopens (he.not_opens hc)
  | peer stream network hsame => exact hs.of_outgoing hsame
  | _ => exact hs

theorem Ended.held (he : h.Ended reason) (hstep : h.step? m = some h') (hs : ShutIfAny h.held?) :
    ShutIfAny h'.held? := by
  have hlink := (he.step hstep).2.1
  unfold held? at hs ⊢
  rw [hlink]
  split
  · rintro s hs
    cases hs
  · rename_i hvacant
    rw [if_neg hvacant] at hs
    exact he.shut (moved_of_step? hstep) hs

/-- Whoever has just closed a hub leaves no stream on which it could send. -/
theorem Ended.closes {phase : CloserPhase} (he : h.Ended reason) (hstep : CloserStep h k phase h')
    (hphase : phase = .failing .conclude) : ShutIfAny h'.held? := by
  cases hstep with
  | shutsDown hup hfree =>
    intro s hheld
    unfold held? at hheld
    split at hheld
    · cases hheld
    · obtain ⟨s₀, -, rfl⟩ := Option.map_eq_some_iff.mp hheld
      rfl
  | ends hup =>
    have hvacant : h.link = .vacant := by
      rcases settled_iff.mp he.settled with hup' | ⟨hvacant, -⟩
      · exact absurd hup' hup
      · exact hvacant
    intro s hheld
    have hnone : (h.setCloser k .done).held? = none := if_pos hvacant
    rw [hnone] at hheld
    cases hheld
  | _ => cases hphase

theorem exists_closer_of_done (hmoved : Moved h m h') (hnot : CloserPhase.done ∉ h.closers)
    (hdone : CloserPhase.done ∈ h'.closers) : ∃ k, h.closers[k]? = some (.failing .conclude) ∧
      CloserStep h k (.failing .conclude) h' := by
  cases hmoved with
  | closes =>
    rcases List.mem_append.mp hdone with hdone | hdone
    · exact absurd hdone hnot
    · cases List.mem_singleton.mp hdone
  | caller hc hstep => cases hstep <;> exact absurd hdone hnot
  | @closer h' k phase hk hstep =>
    have hset {next : CloserPhase} (hcl : h'.closers = h.closers.set k next) : next = .done := by
      rw [hcl] at hdone
      exact ((List.mem_or_eq_of_mem_set hdone).resolve_left hnot).symm
    cases hstep with
    | taints => cases hset rfl
    | closesPool => cases hset rfl
    | drains => cases hset rfl
    | shutsDown hup hfree => exact ⟨k, hk, .shutsDown hup hfree⟩
    | ends hup => exact ⟨k, hk, .ends hup⟩
  | drive hj hstep | driveExpires hj hstep =>
    rw [(driveStep_leaves hstep).2.1] at hdone
    exact absurd hdone hnot
  | _ => exact absurd hdone hnot

/-- What holds of a hub if nobody opened the stream, or waited for it, when it was tainted. -/
structure Disconnected (h : Hub) : Prop where
  alone : Alone h.link h.callers
  staged : h.Staged
  ended : ∀ reason, h.taint = some reason → h.Ended reason
  state : h.taint.isSome → h.state = .disconnected
  shut : .done ∈ h.closers → ShutIfAny h.held?

theorem Disconnected.start (settings : Settings) (network : Network) :
    (start settings network).Disconnected := by
  refine ⟨?_, Staged.start settings network, ?_, ?_, ?_⟩
  · intro i c hc
    cases hc
  · intro reason ht
    cases ht
  · intro ht
    cases ht
  · intro hdone
    cases hdone

theorem Disconnected.step (hd : h.Disconnected) (hstep : h.step? m = some h')
    (hguard : taintsSettled h h') : h'.Disconnected := by
  have hmoved := moved_of_step? hstep
  refine ⟨hd.alone.moved hmoved, hd.staged.step hstep, ?_, ?_, ?_⟩
  · intro reason ht
    refine ⟨hd.alone.moved hmoved, ht, ?_⟩
    cases hold : h.taint with
    | none => simpa [taintsSettled, hold, ht] using hguard
    | some first => exact ((hd.ended first hold).step hstep).1.settled
  · intro ht
    cases hold : h.taint with
    | none =>
      obtain ⟨reason, ht⟩ := Option.isSome_iff_exists.mp ht
      exact state_of_tainted hstep hold ht
    | some first => exact ((hd.ended first hold).step hstep).2.2.2 (hd.state (by simp [hold]))
  · intro hdone
    by_cases hbefore : CloserPhase.done ∈ h.closers
    · -- who has closed the hub had tainted it first
      obtain ⟨first, hold⟩ := Option.isSome_iff_exists.mp (hd.staged.closed hbefore).1
      exact (hd.ended first hold).held hstep (hd.shut hbefore)
    · obtain ⟨k, hk, hcloser⟩ := exists_closer_of_done hmoved hbefore hdone
      have hreached := hd.staged.closers .conclude (List.mem_of_getElem? hk)
      obtain ⟨first, hold⟩ := Option.isSome_iff_exists.mp hreached.1
      exact (hd.ended first hold).closes hcloser rfl

end Hub

namespace Chronicle

variable {w w' : Chronicle} {m : Move} {moves after : List Move} {settings : Settings}
  {network : Network} {reason : String}

theorem taint_run (hrun : w.run? moves = some w') (ht : w.hub.taint = some reason) :
    w'.hub.taint = some reason := by
  refine iterates.always (P := fun w => w.hub.taint = some reason) ?_ ht hrun
  intro w₁ w₂ m ht hstep
  obtain ⟨h', hmove, rfl⟩ := exists_of_step? hstep
  exact taint_step? hmove ht

theorem disconnected_run (hd : w.hub.Disconnected)
    (hrun : w.runWhile? taintsSettled moves = some w') : w'.hub.Disconnected := by
  refine (iterates_while taintsSettled).always (P := fun w => w.hub.Disconnected) ?_ hd hrun
  intro w₁ w₂ m hd hstep
  obtain ⟨hplain, hguard⟩ := step?_of_stepWhile? hstep
  obtain ⟨h', hmove, rfl⟩ := exists_of_step? hplain
  exact hd.step hmove hguard

/-- The first reason for a taint stays, whatever happens. If nobody was opening the stream, or
    waiting for it, when the hub was tainted, it is disconnected as long as it is tainted; and as
    soon as somebody has closed it nothing can be sent on any stream that it keeps. -/
theorem disconnected_of_run (settings : Settings) (network : Network) :
    (∀ (before after : List Move) (w w' : Chronicle) (reason : String),
      (start settings network).run? before = some w → w.hub.taint = some reason →
      w.run? after = some w' → w'.hub.taint = some reason) ∧
    ∀ (moves : List Move) (w : Chronicle),
      (start settings network).runWhile? taintsSettled moves = some w →
      (w.hub.taint.isSome → w.hub.state = .disconnected) ∧
      (.done ∈ w.hub.closers → ShutIfAny w.hub.held?) := by
  constructor
  · intro before after w w' reason _ ht hafter
    exact taint_run hafter ht
  · intro moves w hrun
    have hd := disconnected_run (Disconnected.start settings network) hrun
    exact ⟨hd.state, hd.shut⟩

/-- A caller begins to open the stream, gets so far, and the hub is closed. The caller goes on, if
    it has not got there yet. -/
def closing (steps : Nat) : List Move :=
  [.enter (.call Catalog.ping)] ++ List.replicate steps (.step (.caller 0)) ++ [.close]
    ++ List.replicate 4 (.step (.closer 0)) ++ List.replicate (4 - steps) (.step (.caller 0))

theorem disconnected_of_run_closing : ∃ network w,
    (start Settings.default network).runWhile? taintsSettled (closing 4) = some w ∧
    w.hub.taint.isSome ∧ w.hub.link = .up ∧ w.hub.state = .disconnected ∧
    ShutIfAny w.hub.held? := by
  have hend : ((start Settings.default (.accepts (Stream.greeting []))).runWhile? taintsSettled
      (closing 4)).map (fun w => (w.hub.taint.isSome, w.hub.link, w.hub.closers))
      = some (true, .up, [.done]) := by decide +kernel
  obtain ⟨w, hrun, hw⟩ := Option.map_eq_some_iff.mp hend
  rw [Prod.mk.injEq, Prod.mk.injEq] at hw
  obtain ⟨ht, hup, hclosers⟩ := hw
  obtain ⟨-, hwhile⟩ := disconnected_of_run Settings.default (.accepts (Stream.greeting []))
  obtain ⟨hstate, hshut⟩ := hwhile (closing 4) w hrun
  exact ⟨_, w, hrun, ht, hup, hstate ht, hshut (by simp [hclosers])⟩

/-- The hub is closed while a caller dials. In the end it says that it is connected, tainted as it
    is, and has a stream that nobody has shut down or will shut down. -/
theorem connected_after_close : ∃ w, (start Settings.default (.accepts (Stream.greeting []))).run?
    (closing 2) = some w ∧ w.hub.closers = [.done] ∧ (w.hub.outcome? 0).isSome ∧
    w.hub.taint = some closedByClient ∧ w.hub.state = .connected ∧
    w.hub.held?.map Stream.shut = some false := by
  have hend : ((start Settings.default (.accepts (Stream.greeting []))).run? (closing 2)).map
      (fun w => (w.hub.closers, (w.hub.outcome? 0).isSome, w.hub.taint, w.hub.state,
        w.hub.held?.map Stream.shut))
      = some ([.done], true, some closedByClient, .connected, some false) := by decide +kernel
  obtain ⟨w, hrun, hw⟩ := Option.map_eq_some_iff.mp hend
  rw [Prod.mk.injEq, Prod.mk.injEq, Prod.mk.injEq, Prod.mk.injEq] at hw
  exact ⟨w, hrun, hw⟩

end Chronicle

end RespLink
