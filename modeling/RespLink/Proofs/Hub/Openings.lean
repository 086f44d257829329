import RespLink.Proofs.Hub.Chronicle
import RespLink.Proofs.Hub.Order
import RespLink.Proofs.Hub.Taint

/-!
# Openings — who opens the stream, and how often

One caller opens the stream and the others wait for it. They look for a taint before they wait and
not afterwards, so whoever waits while the hub is tainted will try in turn when the opening fails,
and an opening that goes on while somebody else taints the hub ends as if nothing had happened.

Both need somebody who opens the stream, or waits for it, in the moment of the taint. Where that is
not so the matter is *settled*, and a hub that is tainted then stays as it is: nobody opens a
stream any more, the link is what it was, and the state stays disconnected (`Ended.step`).
-/

namespace RespLink

open Hub

namespace Hub

/-- As long as the stream is not up, callers are on their way to it or have ended without it. -/
def Outside (link : Link) (callers : List Caller) : Prop :=
  link ≠ .up → ∀ (i : Nat) (c : Caller), callers[i]? = some c → c.phase.isOutside

/-- Whether nobody opens the stream, or waits for somebody to do so. -/
def settled (h : Hub) : Bool :=
  match h.link with
  | .up => true
  | .opening _ => false
  | .vacant => h.callers.all fun c => !c.phase.awaits

variable {h h' : Hub} {i j k : Nat} {c : Caller} {phase : CallerPhase} {link link' : Link}
  {callers : List Caller} {m : Move} {reason : String}

theorem settled_iff : h.settled ↔ h.link = .up ∨ h.link = .vacant ∧
    ∀ (i : Nat) (c : Caller), h.callers[i]? = some c → c.phase.awaits = false := by
  unfold settled
  split
  · rename_i hlink
    simp [hlink]
  · rename_i hlink
    simp [hlink]
  · rename_i hlink
    simp only [hlink, List.all_eq_true, Bool.not_eq_true', true_and, reduceCtorEq, false_or]
    constructor
    · intro hall i c hc
      exact hall c (List.mem_of_getElem? hc)
    · intro hall c hc
      obtain ⟨i, hi⟩ := List.mem_iff_getElem?.mp hc
      exact hall i c hi

/-! ## Who opens the stream -/

theorem Alone.caller (ha : Alone h.link h.callers) (hc : h.callers[i]? = some c)
    (hstep : CallerStep h i c h') : Alone h'.link h'.callers := by
  cases hstep with
  | moves pool phase hhold hopens hphase => exact ha.move hphase
  | begins hhold hopens hpast hlink =>
    exact .replace (fun k c _ => ha.nobody (by simp [hlink]) k c) fun _ => rfl
  | dials hnet hpass => exact .replace (ha.others hc rfl) (by simp [CallerPhase.opens])
  | greets hnet hpass hsend => exact .replace (ha.others hc rfl) fun _ => ha i _ hc rfl
  | welcomed stream inlet hi hr =>
    exact .replace (ha.others hc rfl) (by simp [CallerPhase.opens])
  | fails e stream inlet hopens =>
    exact .replace (ha.others hc hopens) (by simp [CallerPhase.opens])
  | enters => exact ha.move rfl
  | starts => exact ha.move rfl

theorem Alone.moved (ha : Alone h.link h.callers) (hmoved : Moved h m h') :
    Alone h'.link h'.callers := by
  cases hmoved with
  | enters errand => exact ha.enter errand
  | caller hc hstep => exact ha.caller hc hstep
  | closer hk hstep =>
    obtain ⟨hcallers, -, hlink, -⟩ := closerStep_leaves hstep
    rw [hcallers, hlink]
    exact ha
  | drive hj hstep | driveExpires hj hstep =>
    obtain ⟨hcallers, -, hlink, -⟩ := driveStep_leaves hstep
    rw [hcallers, hlink]
    exact ha
  | callerExpires e stream inlet hc hopens =>
    exact .replace (ha.others hc hopens) (by simp [CallerPhase.opens])
  | leaves pool hc hopens => exact ha.move rfl
  | hangsUp hc hopens => exact .replace (ha.others hc hopens) (by simp [CallerPhase.opens])
  | _ => exact ha

/-! ## Before the stream is up -/

theorem Outside.move (ho : Outside link callers) (hlink : link' ≠ .up → link ≠ .up)
    (hphase : link' ≠ .up → phase.isOutside) :
    Outside link' (callers.modify i fun c => { c with phase }) := by
  intro hup k c hc
  rcases getElem?_modify_cases hc with ⟨-, c', -, rfl⟩ | ⟨-, hc⟩
  · exact hphase hup
  · exact ho (hlink hup) k c hc

theorem Outside.caller (ho : Outside h.link h.callers) (ha : Alone h.link h.callers)
    (hc : h.callers[i]? = some c) (hstep : CallerStep h i c h') : Outside h'.link h'.callers := by
  cases hstep with
  | moves pool phase hhold hopens hphase hpast htold hclosed hon =>
    refine ho.move id fun hup => ?_
    cases hout : phase.isOutside with
    | true => rfl
    | false =>
      rcases hon.outside hout with hin | hup'
      · rw [ho hup i c hc] at hin
        cases hin
      · exact absurd hup' hup
  | begins hhold hopens hpast hlink => exact ho.move (by simp [hlink]) fun _ => rfl
  | dials hnet hpass => exact fun hup => absurd rfl hup
  | greets hnet hpass hsend => exact ho.move id fun _ => rfl
  | welcomed stream inlet hi hr => exact fun hup => absurd rfl hup
  | fails e stream inlet hopens => exact ho.move (by simp [ha i c hc hopens]) fun _ => rfl
  | enters => exact ho.move id fun hup => absurd (ho hup i _ hc) (by simp [CallerPhase.isOutside])
  | starts => exact ho.move id fun hup => absurd (ho hup i _ hc) (by simp [CallerPhase.isOutside])

theorem Outside.moved (ho : Outside h.link h.callers) (ha : Alone h.link h.callers)
    (hmoved : Moved h m h') : Outside h'.link h'.callers := by
  cases hmoved with
  | enters errand =>
    intro hup k c hc
    rcases getElem?_concat_cases hc with hc | ⟨-, rfl⟩
    · exact ho hup k c hc
    · rfl
  | caller hc hstep => exact ho.caller ha hc hstep
  | closer hk hstep =>
    obtain ⟨hcallers, -, hlink, -⟩ := closerStep_leaves hstep
    rw [hcallers, hlink]
    exact ho
  | drive hj hstep | driveExpires hj hstep =>
    obtain ⟨hcallers, -, hlink, -⟩ := driveStep_leaves hstep
    rw [hcallers, hlink]
    exact ho
  | callerExpires e stream inlet hc hopens =>
    exact ho.move (by simp [ha _ _ hc hopens]) fun _ => rfl
  | leaves pool hc hopens => exact ho.move id fun _ => rfl
  | hangsUp hc hopens => exact ho.move (by simp [ha _ _ hc hopens]) fun _ => rfl
  | _ => exact ho

/-! ## After a taint -/

/-- A hub that is tainted, and whose stream nobody opens or waits for. -/
structure Ended (h : Hub) (reason : String) : Prop where
  alone : Alone h.link h.callers
  taint : h.taint = some reason
  settled : h.settled

theorem Ended.not_opens (he : h.Ended reason) (hc : h.callers[i]? = some c) : ¬ c.phase.opens := by
  intro hopens
  have hlink := he.alone i c hc hopens
  have hsettled := he.settled
  rw [Hub.settled, hlink] at hsettled
  cases hsettled

theorem Ended.awaits (he : h.Ended reason) (hc : h.callers[i]? = some c)
    (hlink : h.link = .vacant) : c.phase.awaits = false := by
  rcases settled_iff.mp he.settled with hup | ⟨-, hall⟩
  · rw [hup] at hlink
    cases hlink
  · exact hall i c hc

theorem settled_modify (hs : h.settled) (hlink : h'.link = h.link)
    (hcallers : h'.callers = h.callers.modify i fun c => { c with phase })
    (hphase : phase.awaits = false) : h'.settled := by
  rw [settled_iff] at hs ⊢
  rw [hlink, hcallers]
  refine hs.imp_right fun hvacant => ⟨hvacant.1, fun k c hc => ?_⟩
  rcases getElem?_modify_cases hc with ⟨-, c', -, rfl⟩ | ⟨-, hc⟩
  · exact hphase
  · exact hvacant.2 k c hc

theorem Ended.caller (he : h.Ended reason) (hc : h.callers[i]? = some c)
    (hstep : CallerStep h i c h') :
    h'.settled ∧ h'.link = h.link ∧ h'.attempts = h.attempts ∧ h'.state = h.state := by
  have hopens := he.not_opens hc
  cases hstep with
  | moves pool phase hhold _ hphase hpast htold hclosed hon =>
    refine ⟨settled_modify he.settled rfl rfl ?_, rfl, rfl, rfl⟩
    cases hawaits : phase.awaits with
    | false => rfl
    | true =>
      have hclean := (hon.awaits hawaits).1
      rw [he.taint] at hclean
      cases hclean
  | begins hhold _ hpast hlink ht =>
    rcases ht with hclean | hawaits
    · rw [he.taint] at hclean
      cases hclean
    · rw [he.awaits hc hlink] at hawaits
      cases hawaits
  | fails e stream inlet hopens' => exact absurd hopens' hopens
  | enters => exact ⟨settled_modify he.settled rfl rfl rfl, rfl, rfl, rfl⟩
  | starts => exact ⟨settled_modify he.settled rfl rfl rfl, rfl, rfl, rfl⟩
  | _ => exact absurd rfl hopens

/-- A hub that has ended stays as it is in what concerns its stream. -/
theorem Ended.step (he : h.Ended reason) (hstep : h.step? m = some h') :
    h'.Ended reason ∧ h'.link = h.link ∧ h'.attempts = h.attempts ∧
    (h.state = .disconnected → h'.state = .disconnected) := by
  have hmoved := moved_of_step? hstep
  have htaint := taint_step? hstep he.taint
  have halone := he.alone.moved hmoved
  suffices h'.settled ∧ h'.link = h.link ∧ h'.attempts = h.attempts ∧
      (h.state = .disconnected → h'.state = .disconnected) from
    ⟨⟨halone, htaint, this.1⟩, this.2⟩
  have hsame (hcallers : h'.callers = h.callers) (hlink : h'.link = h.link) : h'.settled := by
    have hsettled := he.settled
    unfold Hub.settled at hsettled ⊢
    rw [hcallers, hlink]
    exact hsettled
  cases hmoved with
  | enters errand =>
    refine ⟨?_, rfl, rfl, id⟩
    rw [settled_iff]
    refine (settled_iff.mp he.settled).imp_right fun hvacant => ⟨hvacant.1, fun k c hc => ?_⟩
    rcases getElem?_concat_cases hc with hc | ⟨-, rfl⟩
    · exact hvacant.2 k c hc
    · rfl
  | caller hc hcaller =>
    obtain ⟨hsettled, hlink, hattempts, hstate⟩ := he.caller hc hcaller
    exact ⟨hsettled, hlink, hattempts, fun h => hstate.trans h⟩
  | closer hk hcloser =>
    obtain ⟨hcallers, -, hlink, hattempts, hstate⟩ := closerStep_leaves hcloser
    exact ⟨hsame hcallers hlink, hlink, hattempts, hstate⟩
  | drive hj hdrive | driveExpires hj hdrive =>
    obtain ⟨hcallers, -, hlink, hattempts, hstate⟩ := driveStep_leaves hdrive
    exact ⟨hsame hcallers hlink, hlink, hattempts, hstate⟩
  | callerExpires e stream inlet hc hopens => exact absurd hopens (he.not_opens hc)
  | leaves pool hc hopens => exact ⟨settled_modify he.settled rfl rfl rfl, rfl, rfl, id⟩
  | hangsUp hc hopens => exact absurd hopens (he.not_opens hc)
  | _ => exact ⟨hsame rfl rfl, rfl, rfl, id⟩

theorem Ended.greets (he : h.Ended reason) (m : Move) : h.greets h' m = false := by
  unfold Hub.greets
  split
  · split
    · rename_i errand errand' hc hc'
      exact absurd rfl (he.not_opens hc)
    · rfl
  · rfl

/-! ## How often the stream is opened -/

/-- What a move does about the stream. -/
inductive Reopened (h : Hub) (m : Move) (h' : Hub) : Prop
  | stays : h'.link = h.link → h'.attempts = h.attempts → Reopened h m h'
  | begins {i : Nat} {c : Caller} : h.callers[i]? = some c → h.link = .vacant →
    (h.taint = none ∨ c.phase.awaits) → h'.link = .opening i → h'.attempts = h.attempts + 1 →
    Reopened h m h'
  | succeeds : h.link ≠ .vacant → h'.link = .up → h'.attempts = h.attempts → Reopened h m h'
  | fails : h.link ≠ .vacant → h'.taint.isSome → h'.attempts = h.attempts → Reopened h m h'
  | abandons : h.link ≠ .vacant → h.abandons m → h'.attempts = h.attempts → Reopened h m h'

theorem abandons_of_opens (hc : h.callers[i]? = some c) (hopens : c.phase.opens) :
    h.abandons (.leave i) := by
  obtain ⟨errand, phase⟩ := c
  cases phase with
  | dialing => simp [abandons, hc]
  | authenticating => simp [abandons, hc]
  | _ => cases hopens

theorem reopened_of_moved (ha : Alone h.link h.callers) (hmoved : Moved h m h') :
    Reopened h m h' := by
  have hopening {i : Nat} {c : Caller} (hc : h.callers[i]? = some c) (hopens : c.phase.opens) :
      h.link ≠ .vacant := by simp [ha i c hc hopens]
  cases hmoved with
  | caller hc hstep =>
    cases hstep with
    | begins hhold hopens hpast hlink ht => exact .begins hc hlink ht rfl rfl
    | dials hnet hpass => exact .succeeds (hopening hc rfl) rfl rfl
    | welcomed stream inlet hi hr => exact .succeeds (hopening hc rfl) rfl rfl
    | fails e stream inlet hopens => exact .fails (hopening hc hopens) rfl rfl
    | _ => exact .stays rfl rfl
  | closer hk hstep =>
    obtain ⟨-, -, hlink, hattempts, -⟩ := closerStep_leaves hstep
    exact .stays hlink hattempts
  | drive hj hstep | driveExpires hj hstep =>
    obtain ⟨-, -, hlink, hattempts, -⟩ := driveStep_leaves hstep
    exact .stays hlink hattempts
  | callerExpires e stream inlet hc hopens => exact .fails (hopening hc hopens) rfl rfl
  | hangsUp hc hopens => exact .abandons (hopening hc hopens) (abandons_of_opens hc hopens) rfl
  | _ => exact .stays rfl rfl

theorem greets_modify (hc : h.callers[i]? = some c)
    (hcallers : h'.callers = h.callers.modify i fun c => { c with phase }) :
    h.greets h' (.step (.caller i)) ↔ c.phase = .dialing ∧ phase = .authenticating := by
  obtain ⟨errand, before⟩ := c
  simp only [Hub.greets, hcallers, List.getElem?_modify_eq, hc]
  cases before with
  | dialing => cases phase <;> simp
  | _ => simp

/-- Each password that was sent belongs to an opening of its own. -/
structure Greeted (callers : List Caller) (attempts greetings : Nat) : Prop where
  le : greetings ≤ attempts
  dialing : ∀ (i : Nat) (c : Caller), callers[i]? = some c → c.phase = .dialing →
    greetings < attempts

namespace Greeted

variable {attempts greetings : Nat}

theorem enter (hg : Greeted callers attempts greetings) (errand : Errand) :
    Greeted (callers ++ [⟨errand, .entering⟩]) attempts greetings := by
  refine ⟨hg.le, ?_⟩
  intro k c hc hdialing
  rcases getElem?_concat_cases hc with hc | ⟨-, rfl⟩
  · exact hg.dialing k c hc hdialing
  · cases hdialing

theorem move (hg : Greeted callers attempts greetings) (hphase : phase ≠ .dialing) :
    Greeted (callers.modify i fun c => { c with phase }) attempts greetings := by
  refine ⟨hg.le, ?_⟩
  intro k c hc hdialing
  rcases getElem?_modify_cases hc with ⟨-, c', -, rfl⟩ | ⟨-, hc⟩
  · exact absurd hdialing hphase
  · exact hg.dialing k c hc hdialing

theorem greets (hg : Greeted callers attempts greetings) (ha : Alone link callers)
    (hc : callers[i]? = some c) (hdialing : c.phase = .dialing) :
    Greeted (callers.modify i fun c => { c with phase := .authenticating }) attempts
      (greetings + 1) := by
  refine ⟨hg.dialing i c hc hdialing, ?_⟩
  intro k c' hc' hphase
  rcases getElem?_modify_cases hc' with ⟨-, c'', -, rfl⟩ | ⟨hk, hc'⟩
  · cases hphase
  · have hother := ha.others hc (by simp [hdialing, CallerPhase.opens]) k c' hk hc'
    rw [hphase] at hother
    cases hother

theorem caller (hg : Greeted h.callers h.attempts greetings) (ha : Alone h.link h.callers)
    (hc : h.callers[i]? = some c) (hstep : CallerStep h i c h') :
    Greeted h'.callers h'.attempts (greetings + (h.greets h' (.step (.caller i))).toNat) := by
  -- but for one step, nobody comes to where the password has been sent
  have hmove {phase : CallerPhase}
      (hcallers : h'.callers = h.callers.modify i fun c => { c with phase })
      (hphase : phase ≠ .authenticating) (hdialing : phase ≠ .dialing)
      (hattempts : h'.attempts = h.attempts) :
      Greeted h'.callers h'.attempts (greetings + (h.greets h' (.step (.caller i))).toNat) := by
    have hnot : h.greets h' (.step (.caller i)) = false := by
      simpa [hphase] using greets_modify hc hcallers
    rw [hnot, hcallers, hattempts]
    exact hg.move hdialing
  cases hstep with
  | moves pool phase hhold hopens hphase =>
    refine hmove rfl ?_ ?_ rfl
    · rintro rfl
      cases hphase
    · rintro rfl
      cases hphase
  | begins hhold hopens =>
    have hcallers : (h.beginOpening i).callers = h.callers.modify i fun c =>
        { c with phase := .dialing } := rfl
    have hnot : h.greets (h.beginOpening i) (.step (.caller i)) = false := by
      simpa using greets_modify hc hcallers
    rw [hnot]
    exact ⟨Nat.le_succ_of_le hg.le, fun _ _ _ _ => Nat.lt_succ_of_le hg.le⟩
  | dials hnet hpass => exact hmove rfl (by simp) (by simp) rfl
  | greets hnet hpass hsend =>
    rw [(greets_modify hc rfl).mpr ⟨rfl, rfl⟩]
    exact hg.greets ha hc rfl
  | welcomed stream inlet hi hr => exact hmove rfl (by simp) (by simp) rfl
  | fails e stream inlet hopens => exact hmove rfl (by simp) (by simp) rfl
  | enters => exact hmove rfl (by simp) (by simp) rfl
  | starts => exact hmove rfl (by simp) (by simp) rfl

theorem moved (hg : Greeted h.callers h.attempts greetings) (ha : Alone h.link h.callers)
    (hmoved : Moved h m h') :
    Greeted h'.callers h'.attempts (greetings + (h.greets h' m).toNat) := by
  cases hmoved with
  | enters errand => exact hg.enter errand
  | caller hc hstep => exact hg.caller ha hc hstep
  | closer hk hstep =>
    obtain ⟨hcallers, -, -, hattempts, -⟩ := closerStep_leaves hstep
    rw [hcallers, hattempts]
    exact hg
  | drive hj hstep | driveExpires hj hstep =>
    obtain ⟨hcallers, -, -, hattempts, -⟩ := driveStep_leaves hstep
    rw [hcallers, hattempts]
    exact hg
  | callerExpires e stream inlet hc hopens => exact hg.move (by simp)
  | leaves pool hc hopens => exact hg.move (by simp)
  | hangsUp hc hopens => exact hg.move (by simp)
  | closes => exact hg
  | peer stream network hsame hpeer =>
    cases m with
    | step task => cases hpeer
    | _ => exact hg

end Greeted

/-- Whether nobody waits for a stream in the moment in which opening it fails. -/
def failsAlone (h h' : Hub) : Bool :=
  h.link = .vacant || h'.link ≠ .vacant || h'.taint.isNone || h'.settled

/-! ## After the stream could not be opened -/

/-- How a caller fares with a hub whose stream could not be opened: it fails with its next step,
    has failed or gone away since, or had failed before. -/
def Refused (before h : Hub) (reason : String) (i : Nat) (c : Caller) : Prop :=
  h.step? (.step (.caller i)) = some (h.setCaller i (.finished (.error (.tainted reason)))) ∨
  c.phase = .finished (.error (.tainted reason)) ∨ c.phase = .gone ∨
  before.callers[i]? = some c ∧ ∃ e, c.phase = .finished (.error e)

/-- Callers that have ended since were told why. -/
def ToldSince (before callers : List Caller) (reason : String) : Prop :=
  ∀ (i : Nat) (c : Caller) (outcome : Except Error (Option Reply)), callers[i]? = some c →
    c.phase = .finished outcome → outcome = .error (.tainted reason) ∨ before[i]? = some c

theorem ToldSince.move {before : List Caller} (ht : ToldSince before callers reason)
    (hphase : ∀ outcome, phase = .finished outcome → outcome = .error (.tainted reason)) :
    ToldSince before (callers.modify i fun c => { c with phase }) reason := by
  intro k c outcome hc hfinished
  rcases getElem?_modify_cases hc with ⟨-, c', -, rfl⟩ | ⟨-, hc⟩
  · exact Or.inl (hphase outcome hfinished)
  · exact ht k c outcome hc hfinished

/-- What holds of a hub whose stream could not be opened, since `before`. -/
structure Barred (before h : Hub) (reason : String) : Prop where
  ended : h.Ended reason
  vacant : h.link = .vacant
  outside : Outside h.link h.callers
  told : ToldSince before.callers h.callers reason

theorem Barred.moved {before : Hub} (hb : Barred before h reason) (hmoved : Moved h m h') :
    ToldSince before.callers h'.callers reason := by
  have ht := hb.told
  have hup : h.link ≠ .up := by simp [hb.vacant]
  cases hmoved with
  | enters errand =>
    intro k c outcome hc hfinished
    rcases getElem?_concat_cases hc with hc | ⟨-, rfl⟩
    · exact ht k c outcome hc hfinished
    · cases hfinished
  | caller hc hstep =>
    have hopens := hb.ended.not_opens hc
    cases hstep with
    | moves pool phase hhold _ hphase hpast htold hclosed hon =>
      exact ht.move fun outcome hnext =>
        hon.told outcome reason hnext (hb.outside hup _ _ hc) hb.ended.taint
    | begins => exact ht.move (by simp)
    | fails e stream inlet hopens' => exact absurd hopens' hopens
    | enters => exact ht.move (by simp)
    | starts => exact ht.move (by simp)
    | _ => exact absurd rfl hopens
  | closer hk hstep => exact (closerStep_leaves hstep).1 ▸ ht
  | drive hj hstep | driveExpires hj hstep => exact (driveStep_leaves hstep).1 ▸ ht
  | callerExpires e stream inlet hc hopens => exact absurd hopens (hb.ended.not_opens hc)
  | leaves pool hc hopens => exact ht.move (by simp)
  | hangsUp hc hopens => exact absurd hopens (hb.ended.not_opens hc)
  | _ => exact ht

theorem Barred.step {before : Hub} (hb : Barred before h reason) (hstep : h.step? m = some h') :
    Barred before h' reason ∧ h'.attempts = h.attempts := by
  have hmoved := moved_of_step? hstep
  obtain ⟨hended, hlink, hattempts, -⟩ := hb.ended.step hstep
  refine ⟨⟨hended, hlink.trans hb.vacant, ?_, hb.moved hmoved⟩, hattempts⟩
  exact hb.outside.moved hb.ended.alone hmoved

theorem Barred.refused {before : Hub} (hb : Barred before h reason) (hc : h.callers[i]? = some c) :
    Refused before h reason i c := by
  have hout := hb.outside (by simp [hb.vacant]) i c hc
  have hopens := hb.ended.not_opens hc
  have hawaits := hb.ended.awaits hc hb.vacant
  have hnext (hphase : c.phase = .entering ∨ c.phase = .linking) :
      h.step? (.step (.caller i))
        = some (h.setCaller i (.finished (.error (.tainted reason)))) := by
    rcases hphase with hphase | hphase <;>
      simp [step?, advance, hc, advanceCaller, hphase, hb.ended.taint]
  obtain ⟨errand, phase⟩ := c
  cases phase with
  | entering => exact Or.inl (hnext (Or.inl rfl))
  | linking => exact Or.inl (hnext (Or.inr rfl))
  | awaitingLink => cases hawaits
  | dialing | authenticating => exact absurd rfl hopens
  | gone => exact Or.inr (Or.inr (Or.inl rfl))
  | finished outcome =>
    cases outcome with
    | ok r => cases hout
    | error e =>
      rcases hb.told i _ _ hc rfl with htold | hbefore
      · cases htold
        exact Or.inr (Or.inl rfl)
      · exact Or.inr (Or.inr (Or.inr ⟨hbefore, e, rfl⟩))
  | _ => cases hout

end Hub

namespace Chronicle

variable {w w' w₁ w₂ : Chronicle} {m : Move} {moves after : List Move} {settings : Settings}
  {network : Network} {reason : String}

/-- What is known of the openings so far, if nobody waited whenever one failed. -/
structure Opened (w : Chronicle) : Prop where
  alone : Alone w.hub.link w.hub.callers
  outside : Outside w.hub.link w.hub.callers
  greeted : Greeted w.hub.callers w.hub.attempts w.greetings
  attempts : w.hub.attempts ≤ w.abandoned + 1
  /-- Where nobody has the stream and somebody may yet want it, every opening was abandoned. -/
  vacant : w.hub.link = .vacant → (∀ reason, ¬ w.hub.Ended reason) → w.hub.attempts ≤ w.abandoned

theorem Opened.start (settings : Settings) (network : Network) :
    (start settings network).Opened := by
  constructor
  case alone => intro i c hc; cases hc
  case outside => intro _ i c hc; cases hc
  case greeted => exact ⟨Nat.le_refl 0, by intro i c hc; cases hc⟩
  case attempts => exact Nat.zero_le _
  case vacant => exact fun _ _ => Nat.le_refl 0

theorem Opened.step (ho : w.Opened) (hstep : w.stepWhile? failsAlone m = some w') :
    w'.Opened := by
  obtain ⟨hplain, hguard⟩ := step?_of_stepWhile? hstep
  obtain ⟨h', hmove, rfl⟩ := exists_of_step? hplain
  have hmoved := moved_of_step? hmove
  have halone : Alone h'.link h'.callers := ho.alone.moved hmoved
  suffices h'.attempts ≤ w.abandoned + (w.hub.abandons m).toNat + 1 ∧
      (h'.link = .vacant → (∀ reason, ¬ h'.Ended reason) →
        h'.attempts ≤ w.abandoned + (w.hub.abandons m).toNat) from
    ⟨halone, ho.outside.moved ho.alone hmoved, ho.greeted.moved ho.alone hmoved, this.1, this.2⟩
  have hattempts := ho.attempts
  cases reopened_of_moved ho.alone hmoved with
  | stays hlink hsame =>
    refine ⟨by omega, fun hvacant hnot => ?_⟩
    have hold := ho.vacant (hlink ▸ hvacant) fun reason he => hnot reason (he.step hmove).1
    omega
  | begins hc hvacant ht hlink hmore =>
    -- the hub had not ended, or else nobody would begin
    have hold : w.hub.attempts ≤ w.abandoned := by
      refine ho.vacant hvacant fun reason he => ?_
      rcases ht with hclean | hawaits
      · rw [he.taint] at hclean
        cases hclean
      · rw [he.awaits hc hvacant] at hawaits
        cases hawaits
    refine ⟨by omega, fun hvacant' => ?_⟩
    rw [hlink] at hvacant'
    cases hvacant'
  | succeeds hlink hup hsame =>
    refine ⟨by omega, fun hvacant => ?_⟩
    rw [hup] at hvacant
    cases hvacant
  | fails hlink ht hsame =>
    refine ⟨by omega, fun hvacant hnot => ?_⟩
    obtain ⟨reason, ht⟩ := Option.isSome_iff_exists.mp ht
    have hsettled : h'.settled := by
      have hguard' : failsAlone w.hub h' = true := hguard
      simpa [failsAlone, hlink, hvacant, ht] using hguard'
    exact absurd ⟨halone, ht, hsettled⟩ (hnot reason)
  | abandons hlink habandons hsame =>
    rw [habandons]
    simp only [Bool.toNat_true]
    exact ⟨by omega, fun _ _ => by omega⟩

theorem Opened.run (ho : w.Opened) (hrun : w.runWhile? failsAlone moves = some w') : w'.Opened :=
  (iterates_while failsAlone).always Opened.step ho hrun

/-- What becomes of everybody else when the stream could not be opened. -/
structure NeverAgain (w : Chronicle) (reason : String) (w' : Chronicle) : Prop where
  attempts : w'.hub.attempts = w.hub.attempts
  greetings : w'.greetings = w.greetings
  refused : ∀ (i : Nat) (c : Caller), w'.hub.callers[i]? = some c →
    Refused w.hub w'.hub reason i c

/-- That the stream is opened once, or at most once more whenever whoever was opening it went
    away. -/
structure OpenedOnce (w : Chronicle) : Prop where
  attempts : w.hub.attempts ≤ w.abandoned + 1
  greetings : w.greetings ≤ w.hub.attempts
  /-- After an opening that failed nobody tries again, and everybody fails. -/
  never : ∀ (m : Move) (w₁ : Chronicle) (reason : String), w.stepWhile? failsAlone m = some w₁ →
    w.hub.link ≠ .vacant → w₁.hub.link = .vacant → w₁.hub.taint = some reason →
    ∀ (after : List Move) (w₂ : Chronicle), w₁.run? after = some w₂ → w₁.NeverAgain reason w₂

theorem Barred.run (hb : Barred w.hub w.hub reason) (hrun : w.run? after = some w') :
    w.NeverAgain reason w' := by
  have hkept : Barred w.hub w'.hub reason ∧ w'.hub.attempts = w.hub.attempts ∧
      w'.greetings = w.greetings := by
    refine iterates.always (P := fun w' => Barred w.hub w'.hub reason ∧
      w'.hub.attempts = w.hub.attempts ∧ w'.greetings = w.greetings) ?_ ⟨hb, rfl, rfl⟩ hrun
    rintro w₁ w₂ m ⟨hb, hattempts, hgreetings⟩ hstep
    obtain ⟨h', hmove, rfl⟩ := exists_of_step? hstep
    obtain ⟨hb', hsame⟩ := hb.step hmove
    refine ⟨hb', hsame.trans hattempts, ?_⟩
    show w₁.greetings + (w₁.hub.greets h' m).toNat = w.greetings
    rw [hb.ended.greets m, hgreetings]
    rfl
  obtain ⟨hb', hattempts, hgreetings⟩ := hkept
  exact ⟨hattempts, hgreetings, fun i c hc => hb'.refused hc⟩

theorem Opened.openedOnce (ho : w.Opened) : w.OpenedOnce := by
  refine ⟨ho.attempts, ho.greeted.le, ?_⟩
  intro m w₁ reason hstep hlink hvacant ht after w₂ hrun
  have ho₁ := ho.step hstep
  have hsettled : w₁.hub.settled := by
    have hguard := (step?_of_stepWhile? hstep).2
    simpa [failsAlone, hlink, hvacant, ht] using hguard
  refine Barred.run ⟨⟨ho₁.alone, ht, hsettled⟩, hvacant, ho₁.outside, ?_⟩ hrun
  exact fun i c outcome hc _ => Or.inr hc

/-- As long as nobody waits for the stream whenever opening it fails, it is opened once, and the
    password is sent once. -/
theorem openedOnce_of_run
    (hrun : (start settings network).runWhile? failsAlone moves = some w) : w.OpenedOnce :=
  ((Opened.start settings network).run hrun).openedOnce

/-- One of two callers dials, and the other one waits or not; then the first is refused. -/
def refusal (waits : Bool) : List Move :=
  let caller (i steps : Nat) := List.replicate steps (Move.step (.caller i))
  [.enter (.call Catalog.ping), .enter (.call Catalog.ping)] ++ caller 0 2
    ++ caller 1 (if waits then 2 else 1) ++ caller 0 1

theorem openedOnce_of_run_refusal : ∃ settings network w,
    (start settings network).runWhile? failsAlone (refusal false) = some w ∧
    w.hub.attempts = 1 ∧ w.hub.taint.isSome ∧ w.OpenedOnce := by
  have hend : ((start Settings.default .refuses).runWhile? failsAlone (refusal false)).map
      (fun w => (w.hub.attempts, w.hub.taint.isSome)) = some (1, true) := by decide +kernel
  obtain ⟨w, hrun, hw⟩ := Option.map_eq_some_iff.mp hend
  rw [Prod.mk.injEq] at hw
  exact ⟨_, _, w, hrun, hw.1, hw.2, openedOnce_of_run hrun⟩

/-- Whoever waited for a stream that could not be opened opens it again, and sends the password
    again if it was that which was not accepted. -/
theorem opened_again :
    (∃ w, (start Settings.default .refuses).run?
        (refusal true ++ List.replicate 2 (.step (.caller 1))) = some w ∧
      w.abandoned = 0 ∧ w.hub.attempts = 2) ∧
    ∃ w, (start { Settings.default with password := some "s" }
        (.accepts (Stream.greeting [45, 69, 82, 82, 13, 10]))).run?
        (refusal true ++ [.step (.caller 0)] ++ List.replicate 2 (.step (.caller 1))) = some w ∧
      w.abandoned = 0 ∧ w.greetings = 2 := by
  have hrefused : ((start Settings.default .refuses).run?
      (refusal true ++ List.replicate 2 (.step (.caller 1)))).map
      (fun w => (w.abandoned, w.hub.attempts)) = some (0, 2) := by decide +kernel
  have hdenied : ((start { Settings.default with password := some "s" }
      (.accepts (Stream.greeting [45, 69, 82, 82, 13, 10]))).run?
      (refusal true ++ [.step (.caller 0)] ++ List.replicate 2 (.step (.caller 1)))).map
      (fun w => (w.abandoned, w.greetings)) = some (0, 2) := by decide +kernel
  obtain ⟨w, hrun, hw⟩ := Option.map_eq_some_iff.mp hrefused
  obtain ⟨w', hrun', hw'⟩ := Option.map_eq_some_iff.mp hdenied
  rw [Prod.mk.injEq] at hw hw'
  exact ⟨⟨w, hrun, hw⟩, w', hrun', hw'⟩

end Chronicle

end RespLink
