import Mathlib.Data.List.Basic
import RespLink.Proofs.Hub.Chronicle
import RespLink.Proofs.Hub.Order

/-!
# Balance — no command is lost, and none is completed twice

A command that was entered is in one place: it is unwritten or unanswered, a drive has it in hand,
or it has been completed. Failures move commands between these places like everything else does.

That none stays queued for ever is a matter of numbers. Whoever enters a command starts a drive,
and a drive that goes wrong before it has taken a command fails whatever is queued. So there are
never more unwritten commands than drives that have not taken one to write it, counting callers who
are about to start theirs, and never more unanswered ones than drives that have written one and
not taken one to read its reply. Not all drives that are left can be counted on, though: one that
has found nothing to write, or has failed the queues already, will not look again. The invariant
counts those that will (`DrivePhase.isActive`).
-/

namespace RespLink

open Hub

/-! ## Drives that can be counted on -/

namespace DrivePhase

/-- Whether a drive will still take a command off a queue, or fail both of them. -/
def isActive : DrivePhase → Bool
  | .shelving .stop | .returning .stop | .reading _ | .failing .conclude _ _ | .done => false
  | _ => true

/-- Whether a drive is about to take a command off a queue. -/
def takes : DrivePhase → Bool
  | .choosing _ | .matching => true
  | _ => false

/-- What a drive may have taken that is at a place. -/
def allows : DrivePhase → Progress → Bool
  | .starting _, s | .wantsWriter _, s | .choosing _, s => s = .setOut
  | .writing _, s | .shelving .read, s | .returning .read, s | .wantsReader, s | .matching, s =>
    s = .tookToWrite
  | _, _ => true

end DrivePhase

/-- How many of the drives in question have taken just so much. -/
def staff (drives : List DrivePhase) (progress : List Progress) (counted : DrivePhase → Bool)
    (s : Progress) : Nat :=
  (drives.zip progress).countP fun d => counted d.1 && d.2 == s

theorem zip_set {α β : Type} {l : List α} {m : List β} {j : Nat} {a : α} {b : β} :
    (l.set j a).zip (m.set j b) = (l.zip m).set j (a, b) := by
  induction l generalizing m j with
  | nil => rfl
  | cons x l ih =>
    cases m with
    | nil => simp
    | cons y m =>
      cases j with
      | zero => rfl
      | succ j => simp [ih]

section Staff

variable {drives : List DrivePhase} {progress : List Progress} {counted : DrivePhase → Bool}
  {j : Nat} {p : DrivePhase} {s : Progress}

theorem staff_set (hj : drives[j]? = some p) (hs : progress[j]? = some s)
    (counted : DrivePhase → Bool) (p' : DrivePhase) (s' kind : Progress) :
    staff (drives.set j p') (progress.set j s') counted kind
        + (if counted p && s == kind then 1 else 0)
      = staff drives progress counted kind + (if counted p' && s' == kind then 1 else 0) := by
  have hzip : (drives.zip progress)[j]? = some (p, s) := by
    rw [List.getElem?_zip_eq_some]
    exact ⟨hj, hs⟩
  unfold staff
  rw [zip_set]
  exact countP_set_add hzip _ _

theorem staff_append (hlength : progress.length = drives.length) (kind : Progress) :
    staff (drives ++ [p]) (progress ++ [s]) counted kind
      = staff drives progress counted kind + (if counted p && s == kind then 1 else 0) := by
  unfold staff
  rw [List.zip_append hlength.symm, List.countP_append]
  simp

theorem staff_le {counted' : DrivePhase → Bool} (h : ∀ p, counted p → counted' p)
    (kind : Progress) :
    staff drives progress counted kind ≤ staff drives progress counted' kind := by
  apply List.countP_mono_left
  intro d _ hd
  rw [Bool.and_eq_true] at hd ⊢
  exact ⟨h _ hd.1, hd.2⟩

end Staff

namespace Hub

/-- How many callers are about to start the drive for a command that they have entered. -/
def entering (callers : List Caller) : Nat := callers.countP fun c => c.phase.isEntered

/-- There are enough drives, and callers about to start one, for what is queued. -/
structure Manned (drives : List DrivePhase) (progress : List Progress)
    (entering unwritten unanswered : Nat) : Prop where
  length : progress.length = drives.length
  allows : ∀ (j : Nat) (p : DrivePhase) (s : Progress), drives[j]? = some p →
    progress[j]? = some s → p.allows s
  unwritten : unwritten ≤ entering + staff drives progress DrivePhase.isActive .setOut
  unanswered : unanswered ≤ staff drives progress DrivePhase.isActive .tookToWrite

/-- Each command that was entered is in one of the places, or has been completed, and that once. -/
def Located (places : List Ticket) (completions : List (Nat × Except Error Reply))
    (entered : List Ticket) : Prop :=
  (places.map Ticket.caller ++ completions.map Prod.fst).Perm (entered.map Ticket.caller)

/-- Who holds a lock is where the lock is needed. -/
def Locked (writer reader : Option Nat) (drives : List DrivePhase) : Prop :=
  ∀ (j : Nat) (p : DrivePhase), drives[j]? = some p →
    (p.writes → writer = some j) ∧ (p.reads → reader = some j)

/-- What holds of a hub whose callers entered `entered` and whose drives took what `progress`
    says. -/
structure Kept (h : Hub) (entered : List Ticket) (progress : List Progress) : Prop where
  owned : World.Owned h.callers entered
  located : Located (h.unwritten ++ h.unanswered ++ inHand h.reader h.drives) h.completions entered
  manned : Manned h.drives progress (entering h.callers) h.unwritten.length h.unanswered.length

variable {h h' : Hub} {i j k : Nat} {c : Caller} {p p' : DrivePhase} {drives : List DrivePhase}
  {progress : List Progress} {entered places places' : List Ticket} {t : Ticket}
  {completions : List (Nat × Except Error Reply)} {u u' a a' e : Nat} {m : Move}
  {writer writer' reader reader' : Option Nat} {phase : CallerPhase}

/-! ## Places -/

theorem Located.perm (hl : Located places completions entered) (hp : places'.Perm places) :
    Located places' completions entered :=
  ((hp.map Ticket.caller).append_right _).trans hl

theorem Located.enter (hl : Located places completions entered) (t : Ticket) :
    Located (t :: places) completions (entered ++ [t]) := by
  rw [Located, List.map_cons, List.cons_append, List.map_append]
  exact (hl.cons t.caller).trans (List.perm_append_singleton _ _).symm

theorem Located.complete {done : List Ticket} (outcome : Ticket → Except Error Reply)
    (hl : Located (places ++ done) completions entered) :
    Located places (completions ++ done.map fun t => (t.caller, outcome t)) entered := by
  have hdone : (done.map fun t => (t.caller, outcome t)).map Prod.fst = done.map Ticket.caller := by
    rw [List.map_map]
    rfl
  refine List.Perm.trans ?_ hl
  rw [List.map_append, List.map_append, hdone, List.append_assoc]
  exact (List.perm_append_comm).append_left _

/-! ## Locks -/

theorem Locked.set (hl : Locked writer reader drives) (hw : p'.writes → writer' = some j)
    (hr : p'.reads → reader' = some j) (hw' : ∀ k, k ≠ j → writer = some k → writer' = some k)
    (hr' : ∀ k, k ≠ j → reader = some k → reader' = some k) :
    Locked writer' reader' (drives.set j p') := by
  intro k q hk
  rcases getElem?_set_cases hk with ⟨rfl, rfl⟩ | ⟨hkj, hk⟩
  · exact ⟨hw, hr⟩
  · exact ⟨fun hq => hw' k hkj ((hl k q hk).1 hq), fun hq => hr' k hkj ((hl k q hk).2 hq)⟩

theorem Locked.append_starting (hl : Locked writer reader drives) (buffer : Bytes) :
    Locked writer reader (drives ++ [.starting buffer]) := by
  intro k q hk
  rcases getElem?_concat_cases hk with hk | ⟨-, rfl⟩
  · exact hl k q hk
  · exact ⟨by simp [DrivePhase.writes], by simp [DrivePhase.reads]⟩

theorem Locked.driveStep (hl : Locked h.writer h.reader h.drives) (hj : h.drives[j]? = some p)
    (hstep : DriveStep h j p h') : Locked h'.writer h'.reader h'.drives := by
  have hsame : ∀ {lock : Option Nat} (k : Nat), k ≠ j → lock = some k → lock = some k :=
    fun _ _ hlock => hlock
  have hwriter (hp : p.writes) : h.writer = some j := (hl j p hj).1 hp
  have hreader (hp : p.reads) : h.reader = some j := (hl j p hj).2 hp
  cases hstep with
  | locksWriter hfree =>
    exact hl.set (fun _ => rfl) (by simp [DrivePhase.reads]) (held_by_nobody hfree) hsame
  | findsNothing | hasWritten | sticks =>
    exact hl.set (by simp [DrivePhase.writes]) (by simp [DrivePhase.reads])
      (held_only_by (hwriter rfl)) hsame
  | takes | sends => exact hl.set (fun _ => hwriter rfl) (by simp [DrivePhase.reads]) hsame hsame
  | @returns next =>
    cases next <;>
      exact hl.set (by simp [Afterwards.phase, DrivePhase.writes])
        (by simp [Afterwards.phase, DrivePhase.reads]) hsame hsame
  | locksReader hfree =>
    exact hl.set (by simp [DrivePhase.writes]) (fun _ => rfl) hsame (held_by_nobody hfree)
  | missesAll | completes | settles =>
    exact hl.set (by simp [DrivePhase.writes]) (by simp [DrivePhase.reads]) hsame
      (held_only_by (hreader rfl))
  | fetches | fails => exact hl.set (by simp [DrivePhase.writes]) (fun _ => hreader rfl) hsame hsame
  | taints | closesPool | drains => exact hl.set (by simp [DrivePhase.writes]) hreader hsame hsame
  | _ => exact hl.set (by simp [DrivePhase.writes]) (by simp [DrivePhase.reads]) hsame hsame

/-! ## Numbers -/

namespace Manned

theorem set {s s' : Progress} (hm : Manned drives progress e u a) (u' a' : Nat)
    (hj : drives[j]? = some p) (hs : progress[j]? = some s) (hallows : p'.allows s')
    (hu : u' = 0 ∨ u' + (if p.isActive && s == .setOut then 1 else 0)
      ≤ u + (if p'.isActive && s' == .setOut then 1 else 0))
    (ha : a' = 0 ∨ a' + (if p.isActive && s == .tookToWrite then 1 else 0)
      ≤ a + (if p'.isActive && s' == .tookToWrite then 1 else 0)) :
    Manned (drives.set j p') (progress.set j s') e u' a' := by
  have hset := staff_set hj hs DrivePhase.isActive p' s'
  refine ⟨?_, ?_, ?_, ?_⟩
  · rw [List.length_set, List.length_set, hm.length]
  · intro k q r hq hr
    rcases getElem?_set_cases hq with ⟨rfl, rfl⟩ | ⟨hk, hq⟩
    · rcases getElem?_set_cases hr with ⟨-, rfl⟩ | ⟨hk, -⟩
      · exact hallows
      · exact absurd rfl hk
    · rw [List.getElem?_set_ne (Ne.symm hk)] at hr
      exact hm.allows k q r hq hr
  · have hsetOut := hset .setOut
    have hold := hm.unwritten
    omega
  · have htook := hset .tookToWrite
    have hold := hm.unanswered
    omega

theorem exists_progress (hm : Manned drives progress e u a) (hj : drives[j]? = some p) :
    ∃ s, progress[j]? = some s ∧ p.allows s ∧ progress.set j s = progress := by
  have hlt : j < progress.length := by
    rw [hm.length]
    exact (List.getElem?_eq_some_iff.mp hj).1
  have hs : progress[j]? = some progress[j] := List.getElem?_eq_getElem hlt
  exact ⟨progress[j], hs, hm.allows j p _ hj hs, List.set_getElem_self hlt⟩

/-- A drive moves on without having taken a command, and can be counted on if it could be. -/
theorem onward (hm : Manned drives progress e u a) (hj : drives[j]? = some p)
    (hallows : ∀ s, p.allows s → p'.allows s) (hactive : p.isActive → p'.isActive) :
    Manned (drives.set j p') progress e u a := by
  obtain ⟨s, hs, hps, hsame⟩ := hm.exists_progress hj
  have hle (kind : Progress) : (if p.isActive && s == kind then 1 else 0)
      ≤ (if p'.isActive && s == kind then 1 else 0) := by
    cases hp : p.isActive with
    | false => simp
    | true => simp [hactive hp]
  have hset := hm.set u a hj hs (hallows s hps)
    (Or.inr (Nat.add_le_add_left (hle _) u)) (Or.inr (Nat.add_le_add_left (hle _) a))
  rwa [hsame] at hset

theorem drained (hm : Manned drives progress e u a) (hj : drives[j]? = some p)
    (hallows : ∀ s, p'.allows s) : Manned (drives.set j p') progress e 0 0 := by
  obtain ⟨s, hs, -, hsame⟩ := hm.exists_progress hj
  have hset := hm.set 0 0 hj hs (hallows s) (Or.inl rfl) (Or.inl rfl)
  rwa [hsame] at hset

theorem starts (hm : Manned drives progress (e + 1) u a) (buffer : Bytes) :
    Manned (drives ++ [.starting buffer]) (progress ++ [.setOut]) e u a := by
  refine ⟨?_, ?_, ?_, ?_⟩
  · rw [List.length_append, List.length_append, hm.length, List.length_singleton,
      List.length_singleton]
  · intro k q r hq hr
    rcases getElem?_concat_cases hq with hq | ⟨hk, rfl⟩
    · rcases getElem?_concat_cases hr with hr | ⟨hk, -⟩
      · exact hm.allows k q r hq hr
      · rw [hk, hm.length, List.getElem?_eq_none (Nat.le_refl _)] at hq
        cases hq
    · rw [hk, ← hm.length, List.getElem?_concat_length, Option.some.injEq] at hr
      subst hr
      rfl
  · have hold := hm.unwritten
    rw [staff_append hm.length]
    simp [DrivePhase.isActive]
    omega
  · rw [staff_append hm.length]
    exact Nat.le_add_right_of_le hm.unanswered

end Manned

theorem entering_modify {callers : List Caller} (hc : callers[i]? = some c)
    (phase : CallerPhase) :
    entering (callers.modify i fun c => { c with phase }) + (if c.phase.isEntered then 1 else 0)
      = entering callers + (if phase.isEntered then 1 else 0) := by
  unfold entering
  rw [List.modify_eq_set_getElem?, hc]
  exact countP_set_add hc _ _

theorem entering_modify_of_not {callers : List Caller} (hc : callers[i]? = some c)
    (hstarted : c.phase.isEntered = false) (hentered : phase.isEntered = false) :
    entering (callers.modify i fun c => { c with phase }) = entering callers := by
  simpa [hstarted, hentered] using entering_modify hc phase

/-! ## Callers -/

theorem entrants_caller (hc : h.callers[i]? = some c)
    (hhold : ∀ buffer, c.phase ≠ .holding buffer) : h.entrants (.step (.caller i)) = [] := by
  obtain ⟨errand, phase⟩ := c
  cases phase with
  | holding buffer => exact absurd rfl (hhold buffer)
  | _ => cases errand <;> simp [entrants, hc]

theorem tally_caller (hc : h.callers[i]? = some c) (hstarted : c.phase.isEntered = false) :
    h.tally progress (.step (.caller i)) = progress := by
  obtain ⟨errand, phase⟩ := c
  cases phase with
  | entered buffer => cases hstarted
  | _ => simp [tally, hc]

theorem Kept.setCaller (hk : Kept h entered progress) (hc : h.callers[i]? = some c)
    (hstarted : c.phase.isEntered = false) (hentered : phase.isEntered = false)
    (hpast : c.phase.isPast → phase.isPast) : Kept (h.setCaller i phase) entered progress := by
  refine ⟨hk.owned.move hc hpast, hk.located, ?_⟩
  show Manned _ _ (entering (h.callers.modify i _)) _ _
  rw [entering_modify_of_not hc hstarted hentered]
  exact hk.manned

/-- A caller moves on that neither enters a command nor starts a drive. What else changes is not
    of interest. -/
theorem Kept.aside {h₁ : Hub} (hk : Kept h₁ entered progress) (hcallers : h₁.callers = h.callers)
    (hc : h.callers[i]? = some c) (hhold : ∀ buffer, c.phase ≠ .holding buffer)
    (hstarted : c.phase.isEntered = false) (hentered : phase.isEntered = false)
    (hpast : c.phase.isPast → phase.isPast) :
    Kept (h₁.setCaller i phase) (entered ++ h.entrants (.step (.caller i)))
      (h.tally progress (.step (.caller i))) := by
  rw [entrants_caller hc hhold, tally_caller hc hstarted, List.append_nil]
  exact hk.setCaller (hcallers ▸ hc) hstarted hentered hpast

theorem Kept.enters {q : Request} {buffer : Bytes} (hk : Kept h entered progress)
    (hc : h.callers[i]? = some ⟨.call q, .holding buffer⟩) :
    Kept (({ h with unwritten := h.unwritten ++ [Ticket.mk i q.command] }).setCaller i
      (.entered buffer)) (entered ++ h.entrants (.step (.caller i)))
      (h.tally progress (.step (.caller i))) := by
  have hentrants : h.entrants (.step (.caller i)) = [⟨i, q.command⟩] := by simp [entrants, hc]
  rw [hentrants, tally_caller hc rfl]
  have hmore : entering (h.callers.modify i fun c => { c with phase := .entered buffer })
      = entering h.callers + 1 := by
    simpa [CallerPhase.isEntered] using entering_modify hc (.entered buffer)
  refine ⟨hk.owned.enters hc, ?_, ?_⟩
  · refine (hk.located.enter ⟨i, q.command⟩).perm ?_
    show List.Perm ((h.unwritten ++ [_]) ++ h.unanswered ++ _) _
    rw [List.append_assoc, List.append_assoc, List.append_assoc]
    exact List.perm_middle
  · refine ⟨hk.manned.length, hk.manned.allows, ?_, hk.manned.unanswered⟩
    -- the drive that it is about to start is for one command more
    have hold := hk.manned.unwritten
    show (h.unwritten ++ [_]).length ≤ entering (h.callers.modify i _)
      + staff h.drives progress DrivePhase.isActive .setOut
    rw [List.length_append, List.length_singleton, hmore]
    omega

theorem Kept.starts {errand : Errand} {buffer : Bytes} (hk : Kept h entered progress)
    (hc : h.callers[i]? = some ⟨errand, .entered buffer⟩) :
    Kept (({ h with drives := h.drives ++ [DrivePhase.starting buffer] }).setCaller i .waiting)
      (entered ++ h.entrants (.step (.caller i))) (h.tally progress (.step (.caller i))) := by
  have htally : h.tally progress (.step (.caller i)) = progress ++ [.setOut] := by
    simp [tally, hc]
  rw [htally, entrants_caller hc (by simp), List.append_nil]
  have hless : entering (h.callers.modify i fun c => { c with phase := .waiting }) + 1
      = entering h.callers := by
    simpa [CallerPhase.isEntered] using entering_modify hc .waiting
  refine ⟨hk.owned.move hc fun _ => rfl, ?_, ?_⟩
  · refine hk.located.perm (List.Perm.of_eq ?_)
    show h.unwritten ++ h.unanswered ++ inHand h.reader (h.drives ++ [_]) = _
    rw [inHand_append_starting]
  · refine Manned.starts ?_ buffer
    show Manned _ _ (entering (h.callers.modify i _) + 1) _ _
    rw [hless]
    exact hk.manned

theorem Kept.caller (hk : Kept h entered progress) (hc : h.callers[i]? = some c)
    (hstep : CallerStep h i c h') :
    Kept h' (entered ++ h.entrants (.step (.caller i))) (h.tally progress (.step (.caller i))) := by
  cases hstep with
  | moves pool phase hhold hopens hphase hpast htold hclosed hon =>
    exact Kept.aside { hk with } rfl hc hhold hon.started hon.entered hpast
  | begins hhold hopens hpast hlink ht =>
    have hstarted : c.phase.isEntered = false := by
      obtain ⟨errand, phase⟩ := c
      cases phase with
      | entered buffer => cases hpast
      | _ => rfl
    exact Kept.aside { hk with } rfl hc hhold hstarted rfl (by simp [hpast])
  | dials | greets | welcomed =>
    exact Kept.aside { hk with } rfl hc (by simp) rfl rfl (by simp [CallerPhase.isPast])
  | fails e stream inlet hopens =>
    obtain ⟨errand, phase⟩ := c
    cases phase with
    | dialing | authenticating => exact Kept.aside { hk with } rfl hc (by simp) rfl rfl fun _ => rfl
    | _ => cases hopens
  | enters => exact hk.enters hc
  | starts => exact hk.starts hc

/-! ## Drives -/

theorem tally_drive (hj : h.drives[j]? = some p) (htakes : p.takes = false) :
    h.tally progress (.step (.drive j)) = progress := by
  cases p with
  | choosing buffer => cases htakes
  | «matching» => cases htakes
  | _ => simp [tally, hj]

theorem Kept.setDrive (hk : Kept h entered progress) (hj : h.drives[j]? = some p)
    (hhand : p'.inHand? = p.inHand?) (hallows : ∀ s, p.allows s → p'.allows s)
    (hactive : p.isActive → p'.isActive) : Kept (h.setDrive j p') entered progress := by
  refine ⟨hk.owned, ?_, hk.manned.onward hj hallows hactive⟩
  show Located (h.unwritten ++ h.unanswered ++ inHand h.reader (h.drives.set j p')) _ _
  rw [inHand_set hj hhand]
  exact hk.located

/-- A drive moves on that takes nothing and is not done with anything. What else changes is not of
    interest. -/
theorem Kept.onward {h₁ : Hub} (hk : Kept h₁ entered progress) (hdrives : h₁.drives = h.drives)
    (hj : h.drives[j]? = some p) (htakes : p.takes = false := by rfl)
    (hhand : p'.inHand? = p.inHand? := by rfl)
    (hallows : ∀ s, p.allows s → p'.allows s := by simp [DrivePhase.allows])
    (hactive : p.isActive → p'.isActive := by simp [DrivePhase.isActive]) :
    Kept (h₁.setDrive j p') entered (h.tally progress (.step (.drive j))) := by
  rw [tally_drive hj htakes]
  exact hk.setDrive (hdrives ▸ hj) hhand hallows hactive

theorem Kept.releases {h₁ : Hub} (hk : Kept h₁ entered progress) (hdrives : h₁.drives = h.drives)
    (hj : h.drives[j]? = some p) (htakes : p.takes = false) (hactive : p.isActive = false)
    (hhand : inHand h₁.reader h₁.drives = [t]) (outcome : Except Error Reply) :
    Kept ((h₁.complete t outcome).releaseReader j) entered
      (h.tally progress (.step (.drive j))) := by
  rw [tally_drive hj htakes]
  rw [← hdrives] at hj
  have hlocated := hk.located
  rw [hhand] at hlocated
  refine ⟨hk.owned, ?_, hk.manned.onward hj (by simp [DrivePhase.allows]) (by simp [hactive])⟩
  exact (hlocated.complete fun _ => outcome).perm (List.Perm.of_eq (List.append_nil _))

theorem Kept.takes {buffer : Bytes} {rest : List Ticket} {slices : List Bytes}
    (hk : Kept h entered progress) (hj : h.drives[j]? = some (.choosing buffer))
    (ht : h.unwritten = t :: rest) :
    Kept (({ h with unwritten := rest, unanswered := h.unanswered ++ [t] }).setDrive j
      (.writing slices)) entered (h.tally progress (.step (.drive j))) := by
  have htally : h.tally progress (.step (.drive j)) = progress.set j .tookToWrite := by
    simp [tally, hj, ht]
  rw [htally]
  obtain ⟨s, hs, hallowed, -⟩ := hk.manned.exists_progress hj
  have hsetOut : s = .setOut := by simpa [DrivePhase.allows] using hallowed
  subst hsetOut
  have hlocated := hk.located
  have hmanned := hk.manned
  rw [ht] at hlocated hmanned
  have hhand : inHand h.reader (h.drives.set j (.writing slices)) = inHand h.reader h.drives :=
    inHand_set hj rfl
  refine ⟨hk.owned, ?_, ?_⟩
  · refine hlocated.perm ?_
    show List.Perm (rest ++ (h.unanswered ++ [t]) ++ inHand h.reader (h.drives.set j _)) _
    rw [hhand, ← List.append_assoc]
    exact (List.perm_append_singleton _ _).append_right _
  · refine hmanned.set rest.length (h.unanswered ++ [t]).length hj hs rfl
      (Or.inr ?_) (Or.inr ?_)
    · simp [DrivePhase.isActive]
    · simp [DrivePhase.isActive]

theorem Kept.fetches {rest : List Ticket} (hk : Kept h entered progress)
    (hj : h.drives[j]? = some .matching) (hreader : h.reader = some j)
    (ht : h.unanswered = t :: rest) :
    Kept (({ h with unanswered := rest }).setDrive j (.reading t)) entered
      (h.tally progress (.step (.drive j))) := by
  have htally : h.tally progress (.step (.drive j)) = progress.set j .tookToRead := by
    simp [tally, hj, ht]
  rw [htally]
  obtain ⟨s, hs, hallowed, -⟩ := hk.manned.exists_progress hj
  have htook : s = .tookToWrite := by simpa [DrivePhase.allows] using hallowed
  subst htook
  have hlocated := hk.located
  have hmanned := hk.manned
  rw [hreader, inHand_of_holder hj, ht] at hlocated
  rw [ht] at hmanned
  refine ⟨hk.owned, ?_, ?_⟩
  · refine hlocated.perm ?_
    show List.Perm (h.unwritten ++ rest ++ inHand h.reader (h.drives.set j _)) _
    rw [hreader, inHand_set_self hj]
    show List.Perm (h.unwritten ++ rest ++ [t]) (h.unwritten ++ t :: rest ++ [])
    rw [List.append_nil, List.append_assoc]
    exact (List.perm_append_singleton _ _).append_left _
  · refine hmanned.set h.unwritten.length rest.length hj hs rfl
      (Or.inr ?_) (Or.inr ?_)
    · simp [DrivePhase.isActive]
    · simp [DrivePhase.isActive]

/-- A drive finds the queue empty that it wanted to take a command off. -/
theorem Kept.misses {h₁ : Hub} {s : Progress} (hk : Kept h₁ entered progress)
    (hdrives : h₁.drives = h.drives) (hj : h.drives[j]? = some p)
    (htally : h.tally progress (.step (.drive j)) = progress) (hp : ∀ r, p.allows r → r = s)
    (hempty : s = .setOut ∧ h₁.unwritten = [] ∨ s = .tookToWrite ∧ h₁.unanswered = [])
    (hallows : ∀ r, p'.allows r) (hhand : p'.inHand? = p.inHand?) :
    Kept (h₁.setDrive j p') entered (h.tally progress (.step (.drive j))) := by
  rw [htally]
  rw [← hdrives] at hj
  obtain ⟨r, hr, hallowed, hsame⟩ := hk.manned.exists_progress hj
  have hrs := hp r hallowed
  subst hrs
  have hmanned : Manned (h₁.drives.set j p') (progress.set j r) (entering h₁.callers)
      h₁.unwritten.length h₁.unanswered.length := by
    rcases hempty with ⟨rfl, hnil⟩ | ⟨rfl, hnil⟩
    · exact hk.manned.set _ _ hj hr (hallows _) (Or.inl (by simp [hnil])) (Or.inr (by simp))
    · exact hk.manned.set _ _ hj hr (hallows _) (Or.inr (by simp)) (Or.inl (by simp [hnil]))
  rw [hsame] at hmanned
  refine ⟨hk.owned, ?_, hmanned⟩
  show Located (h₁.unwritten ++ h₁.unanswered ++ inHand h₁.reader (h₁.drives.set j p')) _ _
  rw [inHand_set hj hhand]
  exact hk.located

/-- The reader is taken or let go of by who has no command in hand. -/
theorem Kept.relock (hk : Kept h entered progress)
    (hhand : inHand reader h.drives = inHand h.reader h.drives) :
    Kept { h with reader } entered progress := by
  refine ⟨hk.owned, ?_, hk.manned⟩
  show Located (h.unwritten ++ h.unanswered ++ inHand reader h.drives) _ _
  rw [hhand]
  exact hk.located

theorem Located.drain (hl : Located (h.unwritten ++ h.unanswered ++ places) h.completions entered)
    (reason : String) : Located places (h.drain reason).completions entered := by
  have hall : Located (places ++ (h.unanswered ++ h.unwritten)) h.completions entered :=
    hl.perm (List.perm_append_comm.trans (List.perm_append_comm.append_right _))
  exact hall.complete fun _ => .error (.tainted reason)

theorem Kept.drive (hk : Kept h entered progress) (hl : Locked h.writer h.reader h.drives)
    (hj : h.drives[j]? = some p) (hstep : DriveStep h j p h') :
    Kept h' entered (h.tally progress (.step (.drive j))) := by
  have hreader (hp : p.reads) : h.reader = some j := (hl j p hj).2 hp
  have hhand (hp : p.reads) : inHand h.reader h.drives = p.inHand?.toList := by
    rw [hreader hp, inHand_of_holder hj]
  cases hstep with
  | findsNothing hnil =>
    exact Kept.misses { hk with } rfl hj (by simp [tally, hj, hnil])
      (by simp [DrivePhase.allows]) (Or.inl ⟨rfl, hnil⟩) (by simp [DrivePhase.allows]) rfl
  | takes ht => exact hk.takes hj ht
  | @shelves next =>
    cases next <;> exact Kept.onward { hk with } rfl hj
  | @returns next =>
    cases next <;> exact Kept.onward { hk with } rfl hj rfl rfl
      (by simp [Afterwards.phase, DrivePhase.allows])
      (by simp [Afterwards.phase, DrivePhase.isActive])
  | locksReader hfree =>
    have hk' : Kept { h with reader := some j } entered progress := by
      refine hk.relock ?_
      rw [inHand_of_holder hj, hfree]
      rfl
    exact hk'.onward rfl hj
  | missesAll hnil =>
    have hk' : Kept { h with reader := none } entered progress := hk.relock (hhand rfl).symm
    exact hk'.misses rfl hj (by simp [tally, hj, hnil]) (by simp [DrivePhase.allows])
      (Or.inr ⟨rfl, hnil⟩) (by simp [DrivePhase.allows]) rfl
  | fetches ht => exact hk.fetches hj (hreader rfl) ht
  | completes stream inlet hi =>
    have hk' : Kept { h with stream, inlet } entered progress := { hk with }
    exact hk'.releases rfl hj rfl rfl (hhand rfl) _
  | @drains reason owed =>
    rw [tally_drive hj rfl]
    refine ⟨hk.owned, ?_, hk.manned.drained hj (by simp [DrivePhase.allows])⟩
    have hsame : inHand h.reader (h.drives.set j (.failing .conclude reason owed))
        = inHand h.reader h.drives := inHand_set hj rfl
    show Located (inHand h.reader (h.drives.set j _)) (h.drain reason).completions entered
    rw [hsame]
    exact hk.located.drain reason
  | settles => exact Kept.releases { hk with } rfl hj rfl rfl (hhand rfl) _
  | _ => exact Kept.onward { hk with } rfl hj

/-! ## Everybody -/

theorem Kept.closer {phase : CloserPhase} (hk : Kept h entered progress)
    (hstep : CloserStep h k phase h') : Kept h' entered progress := by
  cases hstep with
  | drains =>
    refine ⟨hk.owned, hk.located.drain closedByClient, ?_⟩
    exact ⟨hk.manned.length, hk.manned.allows, Nat.zero_le _, Nat.zero_le _⟩
  | _ => exact { hk with }

theorem Kept.move (hk : Kept h entered progress) (hl : Locked h.writer h.reader h.drives)
    (hmoved : Moved h m h') : Kept h' (entered ++ h.entrants m) (h.tally progress m) := by
  -- only callers and drives do something that is noted
  have hquiet (hkept : Kept h' entered progress) : Kept h' (entered ++ []) progress := by
    rw [List.append_nil]
    exact hkept
  cases hmoved with
  | enters errand =>
    refine hquiet ⟨hk.owned.enter errand, hk.located, ?_⟩
    show Manned _ _ (entering (h.callers ++ [_])) _ _
    rw [entering, List.countP_append]
    exact hk.manned
  | closes => exact hquiet { hk with }
  | caller hc hstep => exact hk.caller hc hstep
  | closer hk' hstep => exact hquiet (hk.closer hstep)
  | drive hj hstep =>
    have hkept := hk.drive hl hj hstep
    rw [← List.append_nil entered] at hkept
    exact hkept
  | callerExpires e stream inlet hc hopens =>
    have hk' : Kept { ({ h with stream, inlet }).tainted e.message with link := .vacant } entered
        progress := { hk with }
    exact hquiet (hk'.setCaller hc (CallerPhase.isEntered_of_opens hopens) rfl fun _ => rfl)
  | driveExpires hj hstep =>
    have hkept := hk.drive hl hj hstep
    rw [tally_drive hj rfl] at hkept
    exact hquiet hkept
  | leaves pool hc hopens hentered hclosed =>
    have hk' : Kept { h with pool } entered progress := { hk with }
    exact hquiet (hk'.setCaller hc hentered rfl fun _ => rfl)
  | hangsUp hc hopens =>
    have hk' : Kept { h with link := .vacant, stream := none } entered progress := { hk with }
    exact hquiet (hk'.setCaller hc (CallerPhase.isEntered_of_opens hopens) rfl fun _ => rfl)
  | peer stream network hsame hpeer =>
    have hkept : Kept { h with stream, network } entered progress := { hk with }
    cases m with
    | step task => cases hpeer
    | _ => exact hquiet hkept

theorem Locked.move (hl : Locked h.writer h.reader h.drives) (hmoved : Moved h m h') :
    Locked h'.writer h'.reader h'.drives := by
  cases hmoved with
  | caller hc hstep =>
    cases hstep with
    | starts => exact hl.append_starting _
    | _ => exact hl
  | closer hk hstep => cases hstep <;> exact hl
  | drive hj hstep | driveExpires hj hstep => exact hl.driveStep hj hstep
  | _ => exact hl

end Hub

namespace Chronicle

variable {w w' : Chronicle} {m : Move} {moves : List Move} {settings : Settings} {network : Network}

/-- What every move keeps. -/
structure Kept (w : Chronicle) : Prop where
  locked : Locked w.hub.writer w.hub.reader w.hub.drives
  kept : w.hub.Kept w.entered w.progress

theorem Kept.start (settings : Settings) (network : Network) :
    (Chronicle.start settings network).Kept := by
  constructor
  case locked => intro j p hj; cases hj
  case kept =>
    refine ⟨⟨?_, List.nodup_nil⟩, List.Perm.nil, rfl, ?_, Nat.le_refl 0, Nat.le_refl 0⟩
    · intro t ht
      cases ht
    · intro j p s hj
      cases hj

theorem Kept.step (hk : w.Kept) (hstep : w.step? m = some w') : w'.Kept := by
  obtain ⟨h', hmove, rfl⟩ := exists_of_step? hstep
  have hmoved := moved_of_step? hmove
  exact ⟨hk.locked.move hmoved, hk.kept.move hk.locked hmoved⟩

theorem Kept.run (hk : w.Kept) (hrun : w.run? moves = some w') : w'.Kept :=
  iterates.always Kept.step hk hrun

/-- How many of the drives that are left have taken just so much. -/
def left (w : Chronicle) (s : Progress) : Nat :=
  staff w.hub.drives w.progress (fun p => p ≠ .done) s

/-- That no command is lost, and none is completed twice. -/
structure Balanced (w : Chronicle) : Prop where
  /-- A caller enters one command, so that its number says which command is meant. -/
  distinct : (w.entered.map Ticket.caller).Nodup
  /-- Each command that was entered is queued, in hand or completed, and in one of these places
      only. -/
  located : Located (w.hub.unwritten ++ w.hub.unanswered ++ inHand w.hub.reader w.hub.drives)
    w.hub.completions w.entered
  once : (w.hub.completions.map Prod.fst).Nodup
  /-- A caller that has entered its command and not started the drive yet counts as a drive. -/
  unwritten : w.hub.unwritten.length ≤ entering w.hub.callers + w.left .setOut
  unanswered : w.hub.unanswered.length ≤ w.left .tookToWrite
  /-- Where no drive is left, and nobody is about to start one, everything has been completed. -/
  finished : (∀ p ∈ w.hub.drives, p = .done) → entering w.hub.callers = 0 →
    w.hub.unwritten = [] ∧ w.hub.unanswered = [] ∧
    ∀ t ∈ w.entered, ∃ outcome, (t.caller, outcome) ∈ w.hub.completions

theorem staff_eq_zero {drives : List DrivePhase} {progress : List Progress} (s : Progress)
    (hdone : ∀ p ∈ drives, p = .done) : staff drives progress DrivePhase.isActive s = 0 := by
  refine List.countP_eq_zero.mpr ?_
  intro d hd
  rw [hdone d.1 (List.of_mem_zip hd).1]
  simp [DrivePhase.isActive]

theorem inHand_eq_nil {reader : Option Nat} {drives : List DrivePhase}
    (hdone : ∀ p ∈ drives, p = .done) : inHand reader drives = [] := by
  cases hreader : reader with
  | none => rfl
  | some j =>
    cases hj : drives[j]? with
    | none => simp [inHand, holder?, hj]
    | some p =>
      rw [inHand_of_holder hj, hdone p (List.mem_of_getElem? hj)]
      rfl

theorem Kept.balanced (hk : w.Kept) : w.Balanced := by
  obtain ⟨-, howned, hlocated, hmanned⟩ := hk
  have hactive (s : Progress) : staff w.hub.drives w.progress DrivePhase.isActive s ≤ w.left s := by
    apply staff_le
    intro p hp
    cases p with
    | done => cases hp
    | _ => rfl
  constructor
  case distinct => exact howned.distinct
  case located => exact hlocated
  case once =>
    have hnodup := hlocated.symm.nodup howned.distinct
    exact (List.nodup_append.mp hnodup).2.1
  case unwritten => exact Nat.le_trans hmanned.unwritten (Nat.add_le_add_left (hactive _) _)
  case unanswered => exact Nat.le_trans hmanned.unanswered (hactive _)
  case finished =>
    intro hdone hentering
    have hunwritten := hmanned.unwritten
    have hunanswered := hmanned.unanswered
    rw [staff_eq_zero _ hdone] at hunwritten hunanswered
    rw [hentering] at hunwritten
    have hnil : w.hub.unwritten = [] := List.eq_nil_of_length_eq_zero (Nat.le_zero.mp hunwritten)
    have hnil' : w.hub.unanswered = [] := List.eq_nil_of_length_eq_zero (Nat.le_zero.mp hunanswered)
    refine ⟨hnil, hnil', ?_⟩
    intro t ht
    -- nothing is queued and nothing in hand, so what was entered has been completed
    rw [hnil, hnil', inHand_eq_nil hdone] at hlocated
    have hmem := hlocated.mem_iff.mpr (List.mem_map_of_mem ht)
    obtain ⟨done, hdone, hcaller⟩ := List.mem_map.mp hmem
    exact ⟨done.2, hcaller ▸ hdone⟩

/-- Whatever callers, drives, closers and the peer do, no command is lost, and none is completed
    twice. -/
theorem balanced_of_run (hrun : (Chronicle.start settings network).run? moves = some w) :
    w.Balanced :=
  ((Kept.start settings network).run hrun).balanced

/-- Two callers share a stream that the peer ends. The first drive has failed the hub before the
    second caller, which has a buffer by then, enters its command. The drive for that one does not
    even begin, but fails the queues once more. -/
def lateEntry : List Move :=
  let caller (i steps : Nat) := List.replicate steps (Move.step (.caller i))
  let drive (j steps : Nat) := List.replicate steps (Move.step (.drive j))
  [.enter (.call Catalog.ping), .enter (.call Catalog.ping)] ++ caller 0 7 ++ caller 1 4
    ++ drive 0 9 ++ [.finish] ++ drive 0 5 ++ caller 1 2 ++ drive 1 7

theorem balanced_of_run_lateEntry : ∃ settings network w,
    (Chronicle.start settings network).run? lateEntry = some w ∧
    w.hub.drives = [.done, .done] ∧ w.hub.completions.map Prod.fst = [0, 1] ∧ w.Balanced := by
  have hend : ((Chronicle.start Settings.default (.accepts (Stream.greeting []))).run?
      lateEntry).map (fun w => (w.hub.drives, w.hub.completions.map Prod.fst))
      = some ([.done, .done], [0, 1]) := by decide +kernel
  obtain ⟨w, hrun, hw⟩ := Option.map_eq_some_iff.mp hend
  rw [Prod.mk.injEq] at hw
  exact ⟨_, _, w, hrun, hw.1, hw.2, balanced_of_run hrun⟩

end Chronicle

end RespLink
