import RespLink.Hub.Schedule
import RespLink.Proofs.Connection.Refusing
import RespLink.Proofs.Hub.Chronicle

/-!
# Refusals — turning a caller down costs a hub nothing

A hub looks at a command once, when its caller takes its first step, and either turns the caller
down there or never does (`Entrance`). Whatever a caller fails with later is an error of the
stream, the taint, or the reply to its command. That the hub is as it was before is then read off
that one step: nothing has changed but where the caller is.

That nothing else ends with a refusal is an invariant of what callers may be told
(`Unrefused`): the outcomes of commands, and the errors that failing drives still owe.
-/

namespace RespLink

open Hub

namespace Hub

variable {h h' : Hub} {i j k : Nat} {c : Caller} {p p' : DrivePhase} {m : Move} {r : Refusal}

/-! ## The first step -/

/-- What the first step of caller `i` can be. -/
inductive Entrance (h : Hub) (i : Nat) : Errand → Hub → Prop
  | late {errand : Errand} {reason : String} : h.taint = some reason →
    Entrance h i errand (h.setCaller i (.finished (.error (.tainted reason))))
  | refused {q : Request} {r : Refusal} : h.taint = none → h.refusal? q.command = some r →
    Entrance h i (.call q) (h.setCaller i (.finished (.error (.usage r))))
  | admitted {errand : Errand} : h.taint = none →
    (∀ q, errand = .call q → h.refusal? q.command = none) →
    Entrance h i errand (h.setCaller i .linking)

theorem entrance_of_advanceCaller {errand : Errand}
    (hstep : h.advanceCaller i ⟨errand, .entering⟩ = some h') : Entrance h i errand h' := by
  simp only [advanceCaller] at hstep
  split at hstep
  · rename_i reason ht
    cases hstep
    exact .late ht
  · rename_i ht
    cases hstep
    exact .admitted ht (by simp)
  · rename_i q ht
    split at hstep
    · rename_i r hr
      cases hstep
      exact .refused ht hr
    · rename_i hr
      cases hstep
      refine .admitted ht fun q' hq => ?_
      cases hq
      exact hr

/-! ## What callers may be told -/

/-- Whether an outcome is anything but a refusal. -/
def Spares {α : Type} (outcome : Except Error α) : Prop :=
  ∀ e, outcome = .error e → e.isUsage = false

theorem Spares.ok {α : Type} (a : α) : Spares (.ok a) := by
  intro e he
  cases he

theorem Spares.error {α : Type} {e : Error} (he : e.isUsage = false) :
    Spares (.error e : Except Error α) := by
  intro e' he'
  cases he'
  exact he

theorem Spares.map {α β : Type} {outcome : Except Error α} (f : α → β) (ho : Spares outcome) :
    Spares (outcome.map f) := by
  cases outcome with
  | ok a => exact .ok (f a)
  | error e => exact .error (ho e rfl)

/-- No command was turned down after it was entered, and none will be. -/
structure Unrefused (h : Hub) : Prop where
  completions : ∀ done ∈ h.completions, Spares done.2
  owed : ∀ stage reason t e, .failing stage reason (some (t, e)) ∈ h.drives → e.isUsage = false

namespace Unrefused

theorem start (settings : Settings) (network : Network) :
    (Hub.start settings network).Unrefused := by
  constructor <;> intros <;> contradiction

theorem complete {t : Ticket} {outcome : Except Error Reply} (hu : h.Unrefused)
    (ho : Spares outcome) : (h.complete t outcome).Unrefused :=
  ⟨List.forall_mem_append.mpr ⟨hu.completions, List.forall_mem_singleton.mpr ho⟩, hu.owed⟩

theorem drain (hu : h.Unrefused) (reason : String) : (h.drain reason).Unrefused := by
  refine ⟨List.forall_mem_append.mpr ⟨hu.completions, ?_⟩, hu.owed⟩
  intro done hdone
  obtain ⟨t, -, rfl⟩ := List.mem_map.mp hdone
  exact .error rfl

theorem setDrive (hu : h.Unrefused)
    (hp : ∀ stage reason t e, p = .failing stage reason (some (t, e)) → e.isUsage = false) :
    (h.setDrive j p).Unrefused := by
  refine ⟨hu.completions, ?_⟩
  intro stage reason t e hmem
  rcases List.mem_or_eq_of_mem_set hmem with hmem | heq
  · exact hu.owed stage reason t e hmem
  · exact hp stage reason t e heq.symm

theorem readFailed {t : Ticket} {e : Error} {stream : Option Stream} {inlet : Inlet}
    (hu : h.Unrefused) (he : e.isFatal) :
    (({ h with stream, inlet }).readFailed j t e).Unrefused := by
  have hsame : Unrefused { h with stream, inlet } := ⟨hu.completions, hu.owed⟩
  refine hsame.setDrive fun stage reason t' e' hphase => ?_
  cases hphase
  exact Error.not_isUsage_of_isFatal he

end Unrefused

/-! ## Steps -/

theorem fatal_of_intake {e : Error} (hi : h.intake = (.failure e, h')) : e.isFatal := by
  rcases h.intake_cases with ⟨-, hnone⟩ | ⟨s, arrived, intake, inlet, -, hsome, hlooked⟩
  · rw [hnone] at hi
    cases hi
  · rw [hsome] at hi
    cases hi
    exact hlooked.fatal e rfl

/-- A drive that reads completes a command with its reply, or fails because of the stream. -/
theorem Unrefused.reading {t : Ticket} (hu : h.Unrefused)
    (hstep : h.advanceDrive j (.reading t) = some h') : h'.Unrefused := by
  simp only [advanceDrive] at hstep
  split at hstep
  · rename_i reply h₁ hi
    cases hstep
    obtain ⟨stream, inlet, rfl, -⟩ := exists_of_intake hi
    have hsame : Unrefused { h with stream, inlet } := ⟨hu.completions, hu.owed⟩
    have hdone := hsame.complete (t := t) (.ok reply)
    exact Unrefused.setDrive ⟨hdone.completions, hdone.owed⟩ (by simp)
  · rename_i e h₁ hi
    cases hstep
    obtain ⟨stream, inlet, rfl, -⟩ := exists_of_intake hi
    exact hu.readFailed (fatal_of_intake hi)
  · rename_i h₁ hi
    cases hstep
    obtain ⟨stream, inlet, rfl, -⟩ := exists_of_intake hi
    exact hu.readFailed rfl
  · cases hstep

theorem Unrefused.drive (hu : h.Unrefused) (hj : h.drives[j]? = some p)
    (hread : ∀ t, p ≠ .reading t) (hstep : DriveStep h j p h') : h'.Unrefused := by
  have howed : ∀ stage reason t e, p = .failing stage reason (some (t, e)) → e.isUsage = false :=
    fun stage reason t e hp => hu.owed stage reason t e (hp ▸ List.mem_of_getElem? hj)
  cases hstep with
  | completes => exact absurd rfl (hread _)
  | fails => exact absurd rfl (hread _)
  | @returns next =>
    have hsame : Unrefused { h with pool := h.pool.giveBack } := ⟨hu.completions, hu.owed⟩
    exact hsame.setDrive (by cases next <;> simp [Afterwards.phase])
  | @taints reason owed =>
    have hsame : Unrefused (h.tainted reason) := ⟨hu.completions, hu.owed⟩
    refine hsame.setDrive fun stage cause t e hphase => ?_
    cases hphase
    exact howed _ _ t e rfl
  | closesPool =>
    have hsame : Unrefused h.closePool := ⟨hu.completions, hu.owed⟩
    refine hsame.setDrive fun stage cause t e hphase => ?_
    cases hphase
    exact howed _ _ t e rfl
  | @drains reason owed =>
    refine (hu.drain reason).setDrive fun stage cause t e hphase => ?_
    cases hphase
    exact howed _ _ t e rfl
  | @settles reason t e =>
    have hdone := hu.complete (t := t) (.error (howed _ _ t e rfl))
    exact Unrefused.setDrive ⟨hdone.completions, hdone.owed⟩ (by simp)
  | _ => exact Unrefused.setDrive ⟨hu.completions, hu.owed⟩ (by simp)

theorem Unrefused.expire {t : Task} (hu : h.Unrefused) (hstep : h.expire t = some h') :
    h'.Unrefused := by
  unfold Hub.expire at hstep
  split at hstep
  · rename_i span h₁ _ hi
    obtain ⟨stream, inlet, rfl, -⟩ := exists_of_intake hi
    cases t with
    | caller i =>
      dsimp only at hstep
      split at hstep
      · cases hstep
        exact ⟨hu.completions, hu.owed⟩
      · cases hstep
    | drive j =>
      dsimp only at hstep
      split at hstep
      · cases hstep
        exact hu.readFailed rfl
      · cases hstep
    | closer k => cases hstep
  · cases hstep

theorem Unrefused.closer {phase : CloserPhase} (hu : h.Unrefused)
    (hstep : CloserStep h k phase h') : h'.Unrefused := by
  cases hstep with
  | drains => exact ⟨(hu.drain closedByClient).completions, hu.owed⟩
  | _ => exact ⟨hu.completions, hu.owed⟩

theorem Unrefused.caller (hu : h.Unrefused) (hstep : CallerStep h i c h') : h'.Unrefused := by
  cases hstep with
  | starts =>
    refine ⟨hu.completions, ?_⟩
    intro stage reason t e hmem
    rcases List.mem_append.mp hmem with hmem | hmem
    · exact hu.owed stage reason t e hmem
    · cases List.mem_singleton.mp hmem
  | _ => exact ⟨hu.completions, hu.owed⟩

theorem Unrefused.step (hu : h.Unrefused) (hstep : h.step? m = some h') : h'.Unrefused := by
  cases moved_of_step? hstep with
  | caller hc hcaller => exact hu.caller hcaller
  | closer hk hcloser => exact hu.closer hcloser
  | @drive _ j p hj hdrive =>
    -- `DriveStep` does not say what error a reader fails with
    by_cases hread : ∃ t, p = .reading t
    · obtain ⟨t, rfl⟩ := hread
      simp only [step?, advance, hj] at hstep
      exact hu.reading hstep
    · exact hu.drive hj (fun t hp => hread ⟨t, hp⟩) hdrive
  | @callerExpires i => exact hu.expire (t := .caller i) hstep
  | @driveExpires _ j => exact hu.expire (t := .drive j) hstep
  | _ => exact ⟨hu.completions, hu.owed⟩

/-! ## Where callers are told -/

/-- Why a caller was turned down, if it was. -/
def refused? (h : Hub) (i : Nat) : Option Refusal :=
  match h.outcome? i with
  | some (.error (.usage r)) => some r
  | _ => none

theorem refused?_eq_some_iff : h.refused? i = some r ↔
    ∃ errand, h.callers[i]? = some ⟨errand, .finished (.error (.usage r))⟩ := by
  constructor
  · intro hr
    unfold refused? outcome? at hr
    split at hr
    · rename_i r' houtcome
      cases hr
      split at houtcome
      · rename_i errand outcome hi
        cases houtcome
        exact ⟨errand, hi⟩
      · cases houtcome
    · cases hr
  · rintro ⟨errand, hi⟩
    simp [refused?, outcome?, hi]

/-- Caller `i` is moved on, and not turned down. -/
def MovedOn (h : Hub) (i : Nat) (h' : Hub) : Prop :=
  ∃ phase, (∀ outcome, phase = .finished outcome → Spares outcome) ∧
    h'.callers = h.callers.modify i fun c => { c with phase }

theorem MovedOn.goes {phase : CallerPhase} (hphase : ∀ outcome, phase ≠ .finished outcome)
    (hcallers : h'.callers = h.callers) : h.MovedOn i (h'.setCaller i phase) := by
  refine ⟨phase, fun outcome houtcome => absurd houtcome (hphase outcome), ?_⟩
  show h'.callers.modify i _ = _
  rw [hcallers]

theorem MovedOn.ends {outcome : Except Error (Option Reply)} (ho : Spares outcome)
    (hcallers : h'.callers = h.callers) : h.MovedOn i (h'.setCaller i (.finished outcome)) := by
  refine ⟨.finished outcome, fun outcome' houtcome => ?_, ?_⟩
  · cases houtcome
    exact ho
  · show h'.callers.modify i _ = _
    rw [hcallers]

theorem MovedOn.openFailed {e : Error} (he : e.isUsage = false)
    (hcallers : h'.callers = h.callers) : h.MovedOn i (h'.openFailed i e) := by
  unfold Hub.openFailed
  exact .ends (.error he) hcallers

/-- Who has been turned down after somebody was moved on had been turned down before. -/
theorem MovedOn.refused (hm : h.MovedOn i h') (hafter : h'.refused? k = some r) :
    h.refused? k = some r := by
  obtain ⟨phase, hphase, hcallers⟩ := hm
  obtain ⟨errand, hk⟩ := refused?_eq_some_iff.mp hafter
  rw [hcallers] at hk
  rcases getElem?_modify_cases hk with ⟨-, c, -, hc⟩ | ⟨-, hk⟩
  · cases hc
    cases hphase _ rfl _ rfl
  · exact refused?_eq_some_iff.mpr ⟨errand, hk⟩

theorem movedOn_dialed : h.MovedOn i (h.dialed i) := by
  unfold dialed
  split
  · rename_i e hdial
    refine .openFailed ?_ rfl
    unfold Network.dial at hdial
    split at hdial <;> cases hdial <;> rfl
  · rename_i s _
    dsimp only
    split
    · exact .goes (by simp) rfl
    · rename_i password _
      simp only [send]
      cases s.send (Catalog.auth (Argument.ofText password)).command.encode with
      | ok s' => exact .goes (by simp) rfl
      | error fault => exact .openFailed rfl rfl

theorem movedOn_claimed (answer : Pool.Claim × Pool) : h.MovedOn i (h.claimed i answer) := by
  obtain ⟨claim, pool⟩ := answer
  cases claim with
  | permitted => exact .goes (by simp) rfl
  | wait => exact .goes (by simp) rfl
  | turnedAway =>
    refine .ends (.error ?_) rfl
    dsimp only
    split <;> rfl

theorem movedOn_authenticating {errand : Errand}
    (hstep : h.advanceCaller i ⟨errand, .authenticating⟩ = some h') : h.MovedOn i h' := by
  have hcallers {intake : Intake} {h₁ : Hub} (hi : h.intake = (intake, h₁)) :
      h₁.callers = h.callers := by
    obtain ⟨stream, inlet, rfl, -⟩ := exists_of_intake hi
    rfl
  simp only [advanceCaller] at hstep
  split at hstep
  · rename_i reply h₁ hi
    cases hstep
    have hsame := hcallers hi
    unfold answered
    split
    · exact .goes (by simp) hsame
    · rename_i e he
      exact .openFailed (Shape.aboutReply_of_project he).not_isUsage hsame
  · rename_i e h₁ hi
    cases hstep
    exact .openFailed (Error.not_isUsage_of_isFatal (fatal_of_intake hi)) (hcallers hi)
  · rename_i h₁ hi
    cases hstep
    exact .openFailed rfl (hcallers hi)
  · cases hstep

/-- Whoever has taken their first step is not turned down any more. -/
theorem movedOn_of_advanceCaller (hu : h.Unrefused) (hc : c.phase ≠ .entering)
    (hstep : h.advanceCaller i c = some h') : h.MovedOn i h' := by
  obtain ⟨errand, phase⟩ := c
  cases phase with
  | entering => exact absurd rfl hc
  | linking =>
    simp only [advanceCaller] at hstep
    split at hstep <;> cases hstep
    · exact .ends (.error rfl) rfl
    · exact .goes (by simp) rfl
    · exact .goes (by simp) rfl
    · exact .goes (by simp) rfl
  | awaitingLink =>
    simp only [advanceCaller] at hstep
    split at hstep <;> cases hstep
    · exact .goes (by simp) rfl
    · exact .goes (by simp) rfl
  | dialing =>
    cases hstep
    exact movedOn_dialed
  | authenticating => exact movedOn_authenticating hstep
  | claiming =>
    cases errand with
    | link =>
      cases hstep
      exact .ends (.ok none) rfl
    | call q =>
      cases hstep
      exact movedOn_claimed _
  | inLine =>
    simp only [advanceCaller] at hstep
    split at hstep <;> cases hstep
    exact movedOn_claimed _
  | permitted =>
    cases hstep
    exact .goes (by simp) rfl
  | holding buffer =>
    cases errand with
    | link => cases hstep
    | call q =>
      cases hstep
      exact .goes (by simp) rfl
  | entered buffer =>
    cases hstep
    exact .goes (by simp) rfl
  | waiting =>
    simp only [advanceCaller] at hstep
    split at hstep
    · rename_i outcome houtcome
      cases hstep
      obtain ⟨done, hdone, rfl⟩ := Option.map_eq_some_iff.mp houtcome
      have hspares := hu.completions done (List.mem_of_find?_eq_some hdone)
      exact .ends (hspares.map some) rfl
    · cases hstep
  | finished outcome => cases hstep
  | gone => cases hstep

theorem movedOn_of_expire (hstep : h.expire (.caller i) = some h') : h.MovedOn i h' := by
  unfold Hub.expire at hstep
  split at hstep
  · rename_i span h₁ _ hi
    obtain ⟨stream, inlet, rfl, -⟩ := exists_of_intake hi
    dsimp only at hstep
    split at hstep
    · cases hstep
      exact .openFailed rfl rfl
    · cases hstep
  · cases hstep

theorem exists_of_entrance {errand : Errand} (hentrance : Entrance h i errand h')
    (hbefore : h.refused? k ≠ some r) (hafter : h'.refused? k = some r) :
    k = i ∧ h.taint = none ∧ (∃ q, errand = .call q ∧ h.refusal? q.command = some r) ∧
      h' = h.setCaller i (.finished (.error (.usage r))) := by
  cases hentrance with
  | late => exact absurd (MovedOn.refused (.ends (.error rfl) rfl) hafter) hbefore
  | admitted => exact absurd (MovedOn.refused (.goes (by simp) rfl) hafter) hbefore
  | @refused q r' ht hr =>
    obtain ⟨errand, hk⟩ := refused?_eq_some_iff.mp hafter
    rcases getElem?_modify_cases hk with ⟨hki, c, -, hc⟩ | ⟨-, hk⟩
    · cases hc
      exact ⟨hki, ht, ⟨q, rfl, hr⟩, rfl⟩
    · exact absurd (refused?_eq_some_iff.mpr ⟨errand, hk⟩) hbefore

/-- A caller is turned down in its own first step, for what its command is, and in that step nothing
    happens but that it is told. -/
structure TurnsDown (h : Hub) (m : Move) (i : Nat) (r : Refusal) (h' : Hub) : Prop where
  own : m = .step (.caller i)
  first : ∃ q, h.callers[i]? = some ⟨.call q, .entering⟩ ∧ h.refusal? q.command = some r
  clean : h.taint = none
  unchanged : h' = h.setCaller i (.finished (.error (.usage r)))

theorem turnsDown_of_step? (hu : h.Unrefused) (hstep : h.step? m = some h')
    (hbefore : h.refused? i ≠ some r) (hafter : h'.refused? i = some r) :
    h.TurnsDown m i r h' := by
  have hsame (hcallers : h'.callers = h.callers) : h.TurnsDown m i r h' := by
    refine absurd ?_ hbefore
    rw [refused?_eq_some_iff] at hafter ⊢
    rwa [hcallers] at hafter
  have hmoved {k : Nat} (hm : h.MovedOn k h') : h.TurnsDown m i r h' :=
    absurd (hm.refused hafter) hbefore
  cases moved_of_step? hstep with
  | enters errand =>
    obtain ⟨errand', hi⟩ := refused?_eq_some_iff.mp hafter
    rcases getElem?_concat_cases hi with hi | ⟨-, hc⟩
    · exact absurd (refused?_eq_some_iff.mpr ⟨errand', hi⟩) hbefore
    · cases hc
  | closes => exact hsame rfl
  | @caller _ k c hc hcaller =>
    simp only [step?, advance, hc] at hstep
    obtain ⟨errand, phase⟩ := c
    by_cases hphase : phase = .entering
    · subst hphase
      obtain ⟨rfl, ht, ⟨q, rfl, hr⟩, heq⟩ :=
        exists_of_entrance (entrance_of_advanceCaller hstep) hbefore hafter
      exact ⟨rfl, ⟨q, hc, hr⟩, ht, heq⟩
    · exact hmoved (movedOn_of_advanceCaller hu hphase hstep)
  | closer hk hcloser => exact hsame (closerStep_leaves hcloser).1
  | drive hj hdrive | driveExpires hj hdrive => exact hsame (driveStep_leaves hdrive).1
  | @callerExpires k => exact hmoved (movedOn_of_expire (i := k) hstep)
  | leaves pool hc => exact hmoved (.goes (by simp) rfl)
  | hangsUp hc => exact hmoved (.goes (by simp) rfl)
  | peer stream network => exact hsame rfl

/-! ## What callers make of replies -/

theorem eq_of_answer {q : Request} {outcome : Except Error (Option Reply)}
    (hanswer : answer q outcome = .error (.usage r)) : outcome = .error (.usage r) := by
  cases outcome with
  | error e =>
    cases hanswer
    rfl
  | ok reply =>
    cases reply with
    | none => cases hanswer
    | some reply =>
      have habout := (Shape.aboutReply_of_project hanswer).not_isUsage
      cases habout

end Hub

namespace Chronicle

variable {w w' : Chronicle} {m : Move} {moves : List Move} {settings : Settings}
  {network : Network}

theorem unrefused_run (hrun : (start settings network).run? moves = some w) :
    w.hub.Unrefused := by
  refine iterates.always (P := fun w => w.hub.Unrefused) ?_ (Unrefused.start settings network) hrun
  intro w₁ w₂ m hu hstep
  obtain ⟨h', hmove, rfl⟩ := exists_of_step? hstep
  exact hu.step hmove

end Chronicle

/-- Whatever is turned down has changed nothing. A connection is left as it was by every request and
    by every use of a transaction's handle that ends with a refusal. On a shared one only a caller's
    own first step turns it down, and that changes nothing but where the caller is; what a caller
    makes of a reply is no refusal either. -/
theorem unchanged_of_refused :
    (∀ (o : Operation) (c c' : Connection) (r : Refusal),
      o.act c = .error (.failed (.usage r)) c' → c' = c) ∧
    (∀ (d : Deed) (c c' : Connection) (r : Refusal),
      d.act c = .error (.failed (.usage r)) c' → c' = c) ∧
    (∀ (t : Transaction) (command : Command) (c c' : Connection) (r : Refusal),
      t.queue command c = .error (.failed (.usage r)) c' → c' = c) ∧
    (∀ (settings : Settings) (network : Network) (moves : List Move) (w : Chronicle) (m : Move)
      (h' : Hub) (i : Nat) (r : Refusal),
      (Chronicle.start settings network).run? moves = some w → w.hub.step? m = some h' →
      w.hub.refused? i ≠ some r → h'.refused? i = some r → w.hub.TurnsDown m i r h') ∧
    ∀ (q : Request) (outcome : Except Error (Option Reply)) (r : Refusal),
      Hub.answer q outcome = .error (.usage r) → outcome = .error (.usage r) := by
  refine ⟨?_, ?_, ?_, ?_, ?_⟩
  · intro o c c' r hrun
    exact (o.act_refuses c).eq_of_run hrun
  · intro d c c' r hrun
    exact (d.act_refuses c).eq_of_run hrun
  · intro t command c c' r hrun
    exact (t.queue_refuses command).eq_of_run hrun
  · intro settings network moves w m h' i r hrun hstep hbefore hafter
    exact turnsDown_of_step? (Chronicle.unrefused_run hrun) hstep hbefore hafter
  · intro q outcome r hanswer
    exact eq_of_answer hanswer

/-- A connection with a transaction open, a pipeline running, and a command kept back. -/
def Connection.midway : Connection :=
  (ofStream (Stream.greeting [43, 79, 75, 13, 10]) Settings.default).live
    [.deed .multi, .deed (.operate .startPipeline),
      .deed (.operate (.write (Catalog.get [107]).command))]

/-- On such a connection a call is turned down, beginning another transaction, and queueing the end
    of this one; a hub with a caller under way turns down the next, who wants a transaction. -/
theorem unchanged_of_refused_midway :
    Connection.midway.outgoing ≠ [] ∧
    (∃ c', (Operation.call Catalog.ping).act Connection.midway =
      .error (.failed (.usage .whilePipelining)) c' ∧ c' = Connection.midway) ∧
    (∃ c', Deed.multi.act Connection.midway =
      .error (.failed (.usage .whilePipelining)) c' ∧ c' = Connection.midway) ∧
    (∃ c', (Transaction.mk 0).queue Catalog.exec.command Connection.midway =
      .error (.failed (.usage (.notQueueable "EXEC"))) c' ∧ c' = Connection.midway) ∧
    (∃ w h', (Chronicle.start Settings.default (.accepts (Stream.greeting []))).run?
        ([.enter (.call Catalog.ping), .enter (.call Catalog.multi)]
          ++ List.replicate 4 (.step (.caller 0))) = some w ∧
      w.hub.step? (.step (.caller 1)) = some h' ∧
      w.hub.TurnsDown (.step (.caller 1)) 1 (.transactionOnShared "MULTI") h') ∧
    ∃ outcome, Hub.answer Catalog.ping outcome = .error (.usage (.transactionOnShared "MULTI")) ∧
      outcome = .error (.usage (.transactionOnShared "MULTI")) := by
  have hcall : (Operation.call Catalog.ping).act.error? Connection.midway =
      some (.usage .whilePipelining) := by decide +kernel
  have hmulti : Deed.multi.act.error? Connection.midway = some (.usage .whilePipelining) := by
    decide +kernel
  have hexec : ((Transaction.mk 0).queue Catalog.exec.command).error? Connection.midway =
      some (.usage (.notQueueable "EXEC")) := by decide +kernel
  have hshared : ((Chronicle.start Settings.default (.accepts (Stream.greeting []))).run?
      ([.enter (.call Catalog.ping), .enter (.call Catalog.multi)]
        ++ List.replicate 4 (.step (.caller 0)))).map (fun w =>
          (w.hub.refused? 1, (w.hub.step? (.step (.caller 1))).map fun h' => h'.refused? 1))
      = some (none, some (some (.transactionOnShared "MULTI"))) := by decide +kernel
  obtain ⟨w, hrun, hw⟩ := Option.map_eq_some_iff.mp hshared
  rw [Prod.mk.injEq] at hw
  obtain ⟨h', hstep, hafter⟩ := Option.map_eq_some_iff.mp hw.2
  obtain ⟨c₁, hcall⟩ := Act.exists_of_error? hcall
  obtain ⟨c₂, hmulti⟩ := Act.exists_of_error? hmulti
  obtain ⟨c₃, hexec⟩ := Act.exists_of_error? hexec
  obtain ⟨hoperation, hdeed, hqueue, hhub, hanswer⟩ := unchanged_of_refused
  refine ⟨by decide +kernel, ⟨c₁, hcall, hoperation _ _ _ _ hcall⟩,
    ⟨c₂, hmulti, hdeed _ _ _ _ hmulti⟩, ⟨c₃, hexec, hqueue _ _ _ _ _ hexec⟩,
    ⟨w, h', hrun, hstep, hhub _ _ _ _ _ _ _ _ hrun hstep (by simp [hw.1]) hafter⟩, ?_⟩
  have hanswered : Hub.answer Catalog.ping (.error (.usage (.transactionOnShared "MULTI"))) =
      .error (.usage (.transactionOnShared "MULTI")) := rfl
  exact ⟨_, hanswered, hanswer _ _ _ hanswered⟩

end RespLink
