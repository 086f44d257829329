import RespLink.Proofs.Hub.Chronicle
import RespLink.Proofs.Hub.Lending

/-!
# Borrowing — the buffers of a hub

A caller asks for a buffer, and hands it on to the drive that it starts; the drive puts it back
when it has written, found nothing to write or failed to. So callers and drives borrow side by
side, and only callers wait. Every step of either is one exchange of shares, whatever else it does:
a caller that fails to open the stream has nothing, one that goes away with its buffer gives it
back at once, and one that goes away from the line takes care that no permit is left for it there.
-/

namespace RespLink

open Pool

/-- What a caller has of the pool. -/
def CallerPhase.share : CallerPhase → Share
  | .inLine => .place
  | .permitted => .permit
  | .holding _ | .entered _ => .buffer
  | _ => .nothing

namespace DrivePhase

/-- Whether a drive has not come to the end of its write. -/
def hasToWrite : DrivePhase → Bool
  | .starting _ | .wantsWriter _ | .choosing _ | .writing _ => true
  | _ => false

/-- Whether a drive is handing its buffer back. -/
def handsBack : DrivePhase → Bool
  | .shelving _ | .returning _ => true
  | _ => false

/-- What a drive has of the pool. -/
def share : DrivePhase → Share
  | .starting _ | .wantsWriter _ | .choosing _ | .writing _ | .shelving _ => .buffer
  | .returning _ => .returned
  | _ => .nothing

theorem share_ne_place (p : DrivePhase) : p.share ≠ .place := by
  cases p <;> simp [share]

theorem hasPermit_share (p : DrivePhase) : p.share.hasPermit = (p.hasToWrite || p.handsBack) := by
  cases p <;> rfl

end DrivePhase

namespace Hub

/-- What callers have of the pool. -/
def callerShares (callers : List Caller) : List Share := callers.map fun c => c.phase.share

/-- What drives have of it. -/
def driveShares (drives : List DrivePhase) : List Share := drives.map DrivePhase.share

/-- What everybody has of the pool. -/
def shares (h : Hub) : List Share := callerShares h.callers ++ driveShares h.drives

/-- A hub whose pool of so many buffers lends them to callers and drives. -/
def Lends (h : Hub) (count : Nat) : Prop :=
  h.pool.Lends count (callerShares h.callers) (driveShares h.drives)

variable {h h' h₁ : Hub} {i j k count : Nat} {c : Caller} {p p' : DrivePhase} {phase : CallerPhase}
  {m : Move} {callers : List Caller} {drives : List DrivePhase}

theorem callerShares_getElem? (hc : callers[i]? = some c) :
    (callerShares callers)[i]? = some c.phase.share := by
  rw [callerShares, List.getElem?_map, hc]
  rfl

theorem callerShares_modify (hc : callers[i]? = some c) (phase : CallerPhase) :
    callerShares (callers.modify i fun c => { c with phase })
      = (callerShares callers).set i phase.share := by
  rw [List.modify_eq_set_getElem?, hc]
  exact List.map_set

theorem driveShares_getElem? (hj : drives[j]? = some p) :
    (driveShares drives)[j]? = some p.share := by
  rw [driveShares, List.getElem?_map, hj]
  rfl

theorem driveShares_set (drives : List DrivePhase) (j : Nat) (p : DrivePhase) :
    driveShares (drives.set j p) = (driveShares drives).set j p.share := List.map_set

namespace Lends

/-! ## Callers -/

/-- A caller moves on with its exchange. What else changes is not of interest. -/
theorem setCaller (hl : h.Lends count) (hcallers : h₁.callers = h.callers)
    (hdrives : h₁.drives = h.drives) (hc : h.callers[i]? = some c)
    (hdeals : h.pool.Deals i c.phase.share phase.share h₁.pool) :
    (h₁.setCaller i phase).Lends count := by
  have hlent := hl.borrower (callerShares_getElem? hc) hdeals
  show h₁.pool.Lends count (callerShares (h₁.callers.modify i _)) (driveShares h₁.drives)
  rw [hcallers, hdrives, callerShares_modify hc]
  exact hlent

theorem claimed {answer : Claim × Pool} (hl : h.Lends count) (hc : h.callers[i]? = some c)
    (hdeals : h.pool.Deals i c.phase.share answer.1.share answer.2) :
    (h.claimed i answer).Lends count := by
  obtain ⟨claim, pool⟩ := answer
  cases claim with
  | permitted | wait | turnedAway => exact hl.setCaller rfl rfl hc hdeals

/-- A caller that has to do with the stream has nothing, and gets nothing. -/
theorem opening (hl : h.Lends count) (hc : h.callers[i]? = some c) (hopens : c.phase.opens)
    (hstep : CallerStep h i c h') : h'.Lends count := by
  have hnothing : c.phase.share = .nothing := by
    cases hphase : c.phase with
    | dialing | authenticating => rfl
    | _ => simp [hphase, CallerPhase.opens] at hopens
  have hrests : h.pool.Deals i c.phase.share .nothing h.pool := by
    rw [hnothing]
    exact .rests .nothing
  cases hstep with
  | moves pool phase hhold hcloses => simp [hcloses] at hopens
  | begins hhold hcloses => simp [hcloses] at hopens
  | enters | starts => cases hopens
  | _ => exact hl.setCaller rfl rfl hc hrests

theorem advanceCaller (hl : h.Lends count) (hc : h.callers[i]? = some c)
    (hstep : h.advanceCaller i c = some h') : h'.Lends count := by
  have hinversion := callerStep_of_advanceCaller hstep
  obtain ⟨errand, phase⟩ := c
  cases phase with
  | dialing | authenticating => exact hl.opening hc rfl hinversion
  | claiming =>
    cases errand with
    | link =>
      cases hstep
      exact hl.setCaller rfl rfl hc (.rests .nothing)
    | call q =>
      cases hstep
      exact hl.claimed hc (deals_ask h.pool i)
  | inLine =>
    simp only [Hub.advanceCaller] at hstep
    split at hstep
    · cases hstep
    · cases hstep
      exact hl.claimed hc (deals_look h.pool i)
  | permitted =>
    cases hstep
    exact hl.setCaller rfl rfl hc .takes
  | holding buffer =>
    cases errand with
    | link => cases hstep
    | call q =>
      cases hstep
      exact hl.setCaller rfl rfl hc (.rests .buffer)
  | entered buffer =>
    cases hstep
    have hlent := hl.handsOn (callerShares_getElem? hc)
    show h.pool.Lends count (callerShares (h.callers.modify i _)) (driveShares (h.drives ++ [_]))
    rw [callerShares_modify hc, driveShares, List.map_append]
    exact hlent
  | finished outcome | gone => cases hstep
  | entering =>
    simp only [Hub.advanceCaller] at hstep
    split at hstep
    · cases hstep
      exact hl.setCaller rfl rfl hc (.rests .nothing)
    · cases hstep
      exact hl.setCaller rfl rfl hc (.rests .nothing)
    · split at hstep
      · cases hstep
        exact hl.setCaller rfl rfl hc (.rests .nothing)
      · cases hstep
        exact hl.setCaller rfl rfl hc (.rests .nothing)
  | linking =>
    simp only [Hub.advanceCaller] at hstep
    split at hstep <;>
      · cases hstep
        exact hl.setCaller rfl rfl hc (.rests .nothing)
  | awaitingLink =>
    simp only [Hub.advanceCaller] at hstep
    split at hstep
    · cases hstep
      exact hl.setCaller rfl rfl hc (.rests .nothing)
    · cases hstep
      exact hl.setCaller rfl rfl hc (.rests .nothing)
    · cases hstep
  | waiting =>
    simp only [Hub.advanceCaller] at hstep
    split at hstep
    · cases hstep
      exact hl.setCaller rfl rfl hc (.rests .nothing)
    · cases hstep

/-- A caller that goes away takes nothing with it. -/
theorem leave (hl : h.Lends count) (hstep : h.leave i = some h') : h'.Lends count := by
  unfold Hub.leave at hstep
  split at hstep
  · cases hstep
  · rename_i c hc
    obtain ⟨errand, phase⟩ := c
    cases phase with
    | inLine =>
      cases hstep
      exact hl.setCaller rfl rfl hc .withdraws
    | holding buffer =>
      cases hstep
      exact hl.setCaller rfl rfl hc .drops
    | permitted | entered _ | finished _ | gone => cases hstep
    | _ =>
      cases hstep
      exact hl.setCaller rfl rfl hc (.rests .nothing)

/-! ## Drives and closers -/

/-- A drive moves on with its exchange. What else changes is not of interest. -/
theorem setDrive (hl : h.Lends count) (hcallers : h₁.callers = h.callers)
    (hdrives : h₁.drives = h.drives) (hj : h.drives[j]? = some p)
    (hdeals : h.pool.Deals j p.share p'.share h₁.pool) : (h₁.setDrive j p').Lends count := by
  have hlent := hl.other (driveShares_getElem? hj) hdeals p.share_ne_place p'.share_ne_place
  show h₁.pool.Lends count (callerShares h₁.callers) (driveShares (h₁.drives.set j p'))
  rw [hcallers, hdrives, driveShares_set]
  exact hlent

theorem closePool (hl : h.Lends count) : h.closePool.Lends count := Pool.Lends.close hl

theorem driveStep (hl : h.Lends count) (hj : h.drives[j]? = some p)
    (hstep : DriveStep h j p h') : h'.Lends count := by
  cases hstep with
  | shelves => exact hl.setDrive rfl rfl hj .puts
  | @returns next =>
    cases next with
    | stop | read | fail reason => exact hl.setDrive rfl rfl hj .returns
  | closesPool => exact hl.closePool.setDrive rfl rfl hj (.rests .nothing)
  | refused | begins | locksWriter | findsNothing | takes | hasWritten | sends | sticks =>
    exact hl.setDrive rfl rfl hj (.rests .buffer)
  | _ => exact hl.setDrive rfl rfl hj (.rests .nothing)

theorem closerStep {phase : CloserPhase} (hl : h.Lends count) (hstep : CloserStep h k phase h') :
    h'.Lends count := by
  cases hstep with
  | closesPool => exact hl.closePool
  | _ => exact hl

/-! ## Everybody -/

theorem step (hl : h.Lends count) (hstep : h.step? m = some h') : h'.Lends count := by
  cases moved_of_step? hstep with
  | enters errand =>
    have hlent := Pool.Lends.enter hl
    show h.pool.Lends count (callerShares (h.callers ++ [_])) (driveShares h.drives)
    rw [callerShares, List.map_append]
    exact hlent
  | closes => exact hl
  | caller hc _ =>
    simp only [step?, advance, hc] at hstep
    exact hl.advanceCaller hc hstep
  | closer _ hcloser => exact hl.closerStep hcloser
  | drive hj hdrive | driveExpires hj hdrive => exact hl.driveStep hj hdrive
  | callerExpires e stream inlet hc hopens =>
    exact hl.opening hc hopens (.fails e stream inlet hopens)
  | leaves | hangsUp => exact hl.leave hstep
  | peer => exact hl

end Lends

/-! ## Hubs where nobody is about to write -/

/-- No caller has a buffer or waits for one, and no drive is before the end of its write. -/
structure Idle (h : Hub) : Prop where
  callers : ∀ c ∈ h.callers, c.phase.share = .nothing
  drives : ∀ p ∈ h.drives, p.hasToWrite = false

namespace Idle

theorem countP_callerShares (hi : h.Idle) :
    (callerShares h.callers).countP Share.hasPermit = 0 := by
  rw [callerShares, List.countP_map, List.countP_eq_zero]
  intro c hc
  simp [hi.callers c hc, Share.hasPermit]

theorem countP_driveShares (hi : h.Idle) :
    (driveShares h.drives).countP Share.hasPermit = h.drives.countP DrivePhase.handsBack := by
  rw [driveShares, List.countP_map]
  refine List.countP_congr fun p hp => ?_
  simp [DrivePhase.hasPermit_share, hi.drives p hp]

/-- The pool remembers nobody. -/
theorem granted (hi : h.Idle) (hl : h.Lends count) : h.pool.granted = [] := by
  refine List.eq_nil_iff_forall_not_mem.mpr fun who hwho => ?_
  have hwaits := hl.lined.waits who (List.mem_append_right _ hwho)
  obtain ⟨c, hc, hshare⟩ := List.mem_map.mp (List.mem_of_getElem? hwaits)
  rw [hi.callers c hc] at hshare
  cases hshare

theorem available_add (hi : h.Idle) (hl : h.Lends count) :
    h.available + h.drives.countP DrivePhase.handsBack = count := by
  have hpermits := hl.tally.permits
  rw [hi.granted hl, List.countP_append, hi.countP_callerShares, hi.countP_driveShares] at hpermits
  simpa [available] using hpermits

theorem available_of_rest (hi : h.Idle) (hl : h.Lends count)
    (hrest : ∀ p ∈ h.drives, p.handsBack = false) : h.available = count := by
  have hsum := hi.available_add hl
  rwa [List.countP_eq_zero.mpr fun p hp => by simp [hrest p hp]] at hsum

theorem setDrive (hi : h.Idle) (hp : p.hasToWrite = false) (pool : Pool) (j : Nat) :
    (({ h with pool }).setDrive j p).Idle := by
  refine ⟨hi.callers, fun q hq => ?_⟩
  rcases List.mem_or_eq_of_mem_set hq with hq | rfl
  · exact hi.drives q hq
  · exact hp

/-- How many permits and buffers drives have. -/
def left (drives : List DrivePhase) : Nat :=
  (driveShares drives).countP Share.hasPermit + (driveShares drives).countP Share.hasBuffer

/-- A drive gives something back. -/
theorem left_set (hj : drives[j]? = some p)
    (hless : (if p'.share.hasPermit then 1 else 0) + (if p'.share.hasBuffer then 1 else 0)
      < (if p.share.hasPermit then 1 else 0) + (if p.share.hasBuffer then 1 else 0)) :
    left (drives.set j p') < left drives := by
  have hpermits := countP_set_add (driveShares_getElem? hj) Share.hasPermit p'.share
  have hbuffers := countP_set_add (driveShares_getElem? hj) Share.hasBuffer p'.share
  rw [← driveShares_set] at hpermits hbuffers
  unfold left
  omega

/-- A drive that hands its buffer back need not wait for anybody. -/
theorem step (hi : h.Idle) (hj : h.drives[j]? = some p) (hback : p.handsBack) :
    ∃ h', h.step? (.step (.drive j)) = some h' ∧ h'.Idle ∧ left h'.drives < left h.drives := by
  cases p with
  | shelving next =>
    refine ⟨({ h with pool := h.pool.putBuffer }).setDrive j (.returning next), ?_, ?_, ?_⟩
    · simp [step?, advance, hj, advanceDrive]
    · exact hi.setDrive rfl _ _
    · exact left_set hj (by simp [DrivePhase.share, Share.hasPermit, Share.hasBuffer])
  | returning next =>
    refine ⟨({ h with pool := h.pool.giveBack }).setDrive j next.phase, ?_, ?_, ?_⟩
    · cases next <;> simp [step?, advance, hj, advanceDrive, Afterwards.phase]
    · exact hi.setDrive (by cases next <;> rfl) _ _
    · exact left_set hj (by cases next <;> exact Nat.zero_lt_one)
  | _ => cases hback

end Idle

end Hub

namespace Chronicle

open Hub

variable {w : Chronicle} {moves : List Move} {settings : Settings} {network : Network} {count : Nat}

/-- Drives that are handing their buffers back get to the end of it without anybody else. -/
theorem exists_returned (hi : w.hub.Idle) (hl : w.hub.Lends count) :
    ∃ moves w', (∀ m ∈ moves, ∃ j, m = .step (.drive j)) ∧ w.run? moves = some w' ∧
      w'.hub.available = count := by
  -- with each step there is less that drives have
  induction hleft : Idle.left w.hub.drives using Nat.strongRecOn generalizing w with
  | _ n ih =>
    by_cases hback : ∃ p ∈ w.hub.drives, p.handsBack
    · obtain ⟨p, hp, hback⟩ := hback
      obtain ⟨j, hj⟩ := List.mem_iff_getElem?.mp hp
      obtain ⟨h', hstep, hi', hless⟩ := hi.step hj hback
      obtain ⟨moves, w', hmoves, hrun, havailable⟩ :=
        ih _ (hleft ▸ hless) (w := w.note (.step (.drive j)) h') hi' (hl.step hstep) rfl
      refine ⟨.step (.drive j) :: moves, w', ?_, ?_, havailable⟩
      · intro m hm
        rcases List.mem_cons.mp hm with rfl | hm
        · exact ⟨j, rfl⟩
        · exact hmoves m hm
      · rw [iterates.cons, step?, hstep]
        exact hrun
    · refine ⟨[], w, by simp, rfl, hi.available_of_rest hl fun p hp => ?_⟩
      exact Bool.eq_false_iff.mpr fun hpback => hback ⟨p, hp, hpback⟩

/-- How the buffers of a hub stand that has so many. -/
structure Accounted (w : Chronicle) (count : Nat) : Prop where
  conserved : w.hub.pool.Conserved count w.hub.shares
  /-- Who has a permit gets a buffer off the shelf, and it is empty. -/
  takes : ∀ i c, w.hub.callers[i]? = some c → c.phase = .permitted →
    ∃ rest, w.hub.pool.shelf = [] :: rest ∧ w.hub.step? (.step (.caller i))
      = some (({ w.hub with pool := { w.hub.pool with shelf := rest } }).setCaller i (.holding []))
  /-- Where nobody has or awaits a buffer, or is about to write, all are available but those that
      are being handed back. -/
  idle : w.hub.Idle → w.hub.available + w.hub.drives.countP DrivePhase.handsBack = count
  rest : w.hub.Idle → (∀ p ∈ w.hub.drives, p.handsBack = false) → w.hub.available = count
  /-- And these will be, for whoever hands one back need not wait. -/
  returns : w.hub.Idle → ∃ moves w', (∀ m ∈ moves, ∃ j, m = .step (.drive j)) ∧
    w.run? moves = some w' ∧ w'.hub.available = count

/-- Whatever callers, drives, closers and the peer do, no buffer is lost. -/
theorem accounted_of_run (hrun : (Chronicle.start settings network).run? moves = some w) :
    w.Accounted settings.bufferCount := by
  have hl : w.hub.Lends settings.bufferCount := by
    refine iterates.always (P := fun w => w.hub.Lends settings.bufferCount) ?_ ?_ hrun
    · intro w w' m hl hstep
      obtain ⟨h', hmove, rfl⟩ := exists_of_step? hstep
      exact hl.step hmove
    · exact .start settings.bufferSize settings.bufferCount
  have hconserved := Pool.Lends.conserved hl
  refine ⟨hconserved, ?_, fun hi => hi.available_add hl, fun hi => hi.available_of_rest hl,
    fun hi => exists_returned hi hl⟩
  rintro i ⟨errand, phase⟩ hc rfl
  have hpermit : .permit ∈ w.hub.shares :=
    List.mem_append_left _ (List.mem_of_getElem? (callerShares_getElem? hc))
  obtain ⟨rest, hshelf⟩ := hconserved.finds hpermit
  refine ⟨rest, hshelf, ?_⟩
  simp only [Hub.step?, advance, hc, advanceCaller, takeBuffer_cons hshelf]

end Chronicle

/-- Permits and buffers are conserved: by a pool, whoever borrows from it, and by a hub. -/
theorem buffers_accounted :
    (∀ capacity count moves l, (Lending.start capacity count).run? moves = some l →
      l.Accounted count) ∧
    ∀ settings network moves w, (Chronicle.start settings network).run? moves = some w →
      w.Accounted settings.bufferCount :=
  ⟨fun capacity _ _ _ hrun => Lending.accounted_of_run capacity hrun,
    fun _ _ _ _ hrun => Chronicle.accounted_of_run hrun⟩

/-- Three ask for the one buffer that there is. The first gives it back, so that the second is
    granted the permit; but the pool is closed before it looks, and it passes the permit on. -/
def Lending.contended : List Lending.Move :=
  [.ask, .act 0 .take, .act 0 (.fill [80]), .ask, .ask, .act 0 .putBack, .act 0 .giveBack, .close,
    .act 1 .look, .act 2 .leave]

/-- A caller goes away with its buffer, another one after it has started its drive. The peer is
    gone, so the drive fails to write, and then the hub is closed. -/
def Chronicle.fruitless : List Hub.Move :=
  let caller (i steps : Nat) := List.replicate steps (Hub.Move.step (.caller i))
  let drive (j steps : Nat) := List.replicate steps (Hub.Move.step (.drive j))
  [.enter (.call Catalog.ping), .enter (.call Catalog.ping)] ++ caller 0 7 ++ caller 1 4
    ++ [.leave 1, .leave 0, .sever] ++ drive 0 6 ++ [.close]
    ++ List.replicate 4 (.step (.closer 0))

theorem buffers_accounted_failing :
    (∃ l, (Lending.start 16 1).run? Lending.contended = some l ∧ l.pool.closed ∧
      l.pool.permits = 1 ∧ l.Accounted 1) ∧
    ∃ w, (Chronicle.start Settings.default (.accepts (Stream.greeting []))).run?
        Chronicle.fruitless = some w ∧
      w.hub.taint.isSome ∧ w.hub.Idle ∧ w.hub.available = 16 ∧ w.Accounted 16 := by
  have hlending : ((Lending.start 16 1).run? Lending.contended).map
      (fun l => (l.pool.closed, l.pool.permits)) = some (true, 1) := by decide
  have hhub : ((Chronicle.start Settings.default (.accepts (Stream.greeting []))).run?
      Chronicle.fruitless).map (fun w => (w.hub.taint.isSome,
        (w.hub.callers.all fun c => c.phase.share = .nothing),
        (w.hub.drives.all fun p => p.hasToWrite = false), w.hub.available))
      = some (true, true, true, 16) := by decide +kernel
  obtain ⟨l, hl, hpool⟩ := Option.map_eq_some_iff.mp hlending
  obtain ⟨w, hw, hends⟩ := Option.map_eq_some_iff.mp hhub
  simp only [Prod.mk.injEq, List.all_eq_true, decide_eq_true_eq] at hpool hends
  obtain ⟨htaint, hcallers, hdrives, havailable⟩ := hends
  exact ⟨⟨l, hl, hpool.1, hpool.2, buffers_accounted.1 16 1 _ l hl⟩,
    w, hw, htaint, ⟨hcallers, hdrives⟩, havailable, buffers_accounted.2 _ _ _ w hw⟩

end RespLink
