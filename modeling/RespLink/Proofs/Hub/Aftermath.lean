import RespLink.Proofs.Hub.Balance
import RespLink.Proofs.Hub.Openings

/-!
# Aftermath — what still happens after the queues have been failed

Whoever fails a hub taints it, closes its pool and only then fails what is queued. So nobody gets a
permit any more, and no drive begins. Two kinds of stragglers are left, though: callers that have
their permit and will enter a command yet, and drives that began before the taint and will yet
look for a command to write. Either kind alone is harmless: a command entered late is failed by its
own drive, and a late drive finds nothing. Where both are left, the late drive writes the late
command and hands it whatever frame comes next (`late_reply`).

If only one kind is left, and nobody is opening the stream either, then all that still happens is
what was under way: the rest of a command is sent, and a command whose reply was being read is
completed with it. Everything else is failed (`aftermath_of_run`).
-/

namespace RespLink

open Hub

/-- Whether a drive has begun and not yet taken a command. -/
def DrivePhase.isPoised : DrivePhase → Bool
  | .wantsWriter _ | .choosing _ => true
  | _ => false

/-- Whether a drive that has taken no command is about to fail the queues. -/
def DrivePhase.isBound : DrivePhase → Bool
  | .starting _ | .shelving (.fail _) | .returning (.fail _) => true
  | .failing .conclude _ _ => false
  | .failing _ _ _ => true
  | _ => false

/-- A drive that can be counted on and has taken no command is bound to fail the queues, unless it
    will look for a command itself. -/
theorem DrivePhase.isBound_of_isActive {p : DrivePhase} (hactive : p.isActive)
    (hallows : p.allows .setOut) (hpoised : p.isPoised = false) : p.isBound := by
  cases p with
  | wantsWriter buffer => cases hpoised
  | choosing buffer => cases hpoised
  | shelving next => cases next <;> simp_all [isActive, allows, isBound]
  | returning next => cases next <;> simp_all [isActive, allows, isBound]
  | failing stage cause owed => cases stage <;> simp_all [isActive, isBound]
  | _ => simp_all [isActive, allows, isBound]

namespace Hub

/-- Whether somebody fails what is queued with a move. -/
def drains (h : Hub) : Move → Bool
  | .step (.drive j) =>
    match h.drives[j]? with
    | some (.failing .drain _ _) => true
    | _ => false
  | .step (.closer k) =>
    match h.closers[k]? with
    | some (.failing .drain) => true
    | _ => false
  | _ => false

/-- What was sent so far. -/
def wire (h : Hub) : Bytes := (h.stream.map Stream.sent).getD []

/-- No caller has a permit that it has not used. -/
def NoneAdmitted (callers : List Caller) : Prop :=
  ∀ (i : Nat) (c : Caller), callers[i]? = some c → c.phase.isAdmitted = false

/-- No drive has begun without having taken a command. -/
def NonePoised (drives : List DrivePhase) : Prop :=
  ∀ (j : Nat) (p : DrivePhase), drives[j]? = some p → p.isPoised = false

/-- What becomes of commands after `h₁`: one that a drive had in hand may get a reply. -/
def Foretold (h₁ : Hub) (done : Nat × Except Error Reply) : Prop :=
  (∃ t ∈ inHand h₁.reader h₁.drives, done.1 = t.caller) ∨
  ∃ reason, done.2 = .error (.tainted reason)

/-- What holds of a hub since its queues were failed in `h₁`. -/
structure Sealed (h₁ h : Hub) : Prop where
  unanswered : h.unanswered = []
  quiet : h.unwritten = [] ∧ NoneAdmitted h.callers ∨ NonePoised h.drives
  hand : ∀ t ∈ inHand h.reader h.drives, t ∈ inHand h₁.reader h₁.drives
  completions : ∃ later, h.completions = h₁.completions ++ later ∧ ∀ done ∈ later, h₁.Foretold done
  wire : h.wire ++ unsent h.writer h.drives <+: h₁.wire ++ unsent h₁.writer h₁.drives

variable {h h' h₁ : Hub} {i j k : Nat} {c : Caller} {p p' : DrivePhase} {phase : CallerPhase}
  {callers : List Caller} {drives : List DrivePhase} {m : Move} {reason : String} {t : Ticket}

theorem wire_of_outgoing {stream : Option Stream}
    (hsame : stream.map Stream.outgoing = h.stream.map Stream.outgoing) :
    ({ h with stream }).wire = h.wire := by
  have hsent : stream.map Stream.sent = h.stream.map Stream.sent := by
    have hfst := congrArg (Option.map Prod.fst) hsame
    rw [Option.map_map, Option.map_map] at hfst
    exact hfst
  rw [wire, wire, hsent]

/-! ## Stragglers -/

theorem NoneAdmitted.move (hn : NoneAdmitted callers) (hphase : phase.isAdmitted = false) :
    NoneAdmitted (callers.modify i fun c => { c with phase }) := by
  intro k c hc
  rcases getElem?_modify_cases hc with ⟨-, c', -, rfl⟩ | ⟨-, hc⟩
  · exact hphase
  · exact hn k c hc

theorem NoneAdmitted.enter (hn : NoneAdmitted callers) (errand : Errand) :
    NoneAdmitted (callers ++ [⟨errand, .entering⟩]) := by
  intro k c hc
  rcases getElem?_concat_cases hc with hc | ⟨-, rfl⟩
  · exact hn k c hc
  · rfl

theorem NonePoised.set (hn : NonePoised drives) (hp : p'.isPoised = false) :
    NonePoised (drives.set j p') := by
  intro k q hk
  rcases getElem?_set_cases hk with ⟨-, rfl⟩ | ⟨-, hk⟩
  · exact hp
  · exact hn k q hk

theorem NonePoised.append_starting (hn : NonePoised drives) (buffer : Bytes) :
    NonePoised (drives ++ [.starting buffer]) := by
  intro k q hk
  rcases getElem?_concat_cases hk with hk | ⟨-, rfl⟩
  · exact hn k q hk
  · rfl

/-! ## Callers -/

theorem Sealed.setCaller (hs : Sealed h₁ h) (hc : h.callers[i]? = some c)
    (hphase : phase.isAdmitted → c.phase.isAdmitted) : Sealed h₁ (h.setCaller i phase) := by
  refine ⟨hs.unanswered, ?_, hs.hand, hs.completions, hs.wire⟩
  refine hs.quiet.imp_left fun hnone => ⟨hnone.1, hnone.2.move ?_⟩
  refine Bool.eq_false_iff.mpr fun hadmitted => ?_
  have hold := hphase hadmitted
  rw [hnone.2 i c hc] at hold
  cases hold

theorem Sealed.caller (hs : Sealed h₁ h) (he : h.Ended reason) (hclosed : h.pool.closed)
    (hc : h.callers[i]? = some c) (hstep : CallerStep h i c h') : Sealed h₁ h' := by
  have hopens := he.not_opens hc
  cases hstep with
  | moves pool phase hhold _ hphase hpast htold hpool hon =>
    have hs' : Sealed h₁ { h with pool } := { hs with }
    refine hs'.setCaller hc fun hadmitted => ?_
    rcases hon.admitted hadmitted with hold | hopen
    · exact hold
    · rw [hclosed] at hopen
      cases hopen
  | begins hhold _ hpast hlink ht =>
    have hs' : Sealed h₁ { h with
        link := .opening i, state := .connecting, attempts := h.attempts + 1 } := { hs with }
    exact hs'.setCaller hc (by simp [CallerPhase.isAdmitted])
  | fails e stream inlet hopens' => exact absurd hopens' hopens
  | @enters q buffer =>
    -- it had a permit, so no drive looks for a command any more
    have hpoised : NonePoised h.drives := by
      refine hs.quiet.resolve_left fun hnone => ?_
      exact absurd (hnone.2 i _ hc) (by simp [CallerPhase.isAdmitted])
    exact { hs with quiet := Or.inr hpoised }
  | @starts errand buffer =>
    have hs' : Sealed h₁ { h with drives := h.drives ++ [.starting buffer] } := by
      refine ⟨hs.unanswered, hs.quiet.imp_right fun hn => hn.append_starting buffer, ?_,
        hs.completions, ?_⟩
      · show ∀ t ∈ inHand h.reader (h.drives ++ [_]), _
        rw [inHand_append_starting]
        exact hs.hand
      · show h.wire ++ unsent h.writer (h.drives ++ [_]) <+: _
        rw [unsent_append_starting]
        exact hs.wire
    exact hs'.setCaller hc (by simp [CallerPhase.isAdmitted])
  | _ => exact absurd rfl hopens

/-! ## Drives -/

/-- A drive moves on, and neither begins nor gets anything to send or a command to read the reply
    of. -/
theorem Sealed.setDrive (hs : Sealed h₁ h) (hj : h.drives[j]? = some p)
    (hunsent : unsent h.writer (h.drives.set j p') = unsent h.writer h.drives)
    (hhand : inHand h.reader (h.drives.set j p') = inHand h.reader h.drives)
    (hpoised : p'.isPoised → p.isPoised) : Sealed h₁ (h.setDrive j p') := by
  refine ⟨hs.unanswered, ?_, ?_, hs.completions, ?_⟩
  · refine hs.quiet.imp_right fun hn => hn.set (Bool.eq_false_iff.mpr fun hp => ?_)
    have hold := hpoised hp
    rw [hn j p hj] at hold
    cases hold
  · show ∀ t ∈ inHand h.reader (h.drives.set j p'), _
    rw [hhand]
    exact hs.hand
  · show h.wire ++ unsent h.writer (h.drives.set j p') <+: _
    rw [hunsent]
    exact hs.wire

theorem Sealed.onward (hs : Sealed h₁ h) (hj : h.drives[j]? = some p)
    (hunsent : p'.unsent = p.unsent := by rfl) (hhand : p'.inHand? = p.inHand? := by rfl)
    (hpoised : p'.isPoised → p.isPoised := by simp [DrivePhase.isPoised]) :
    Sealed h₁ (h.setDrive j p') :=
  hs.setDrive hj (unsent_set hj hunsent) (inHand_set hj hhand) hpoised

/-- Nobody sends the rest of a command whose drive has let go of the writer. -/
theorem Sealed.freeWriter (hs : Sealed h₁ h) : Sealed h₁ { h with writer := none } := by
  refine ⟨hs.unanswered, hs.quiet, hs.hand, hs.completions, ?_⟩
  show h.wire ++ [] <+: _
  rw [List.append_nil]
  exact (List.prefix_append _ _).trans hs.wire

theorem Sealed.freeReader (hs : Sealed h₁ h) : Sealed h₁ { h with reader := none } := by
  refine ⟨hs.unanswered, hs.quiet, ?_, hs.completions, hs.wire⟩
  intro t ht
  cases ht

theorem Sealed.takeWriter (hs : Sealed h₁ h) (hfree : h.writer = none)
    (hj : h.drives[j]? = some p) (hunsent : p.unsent = []) :
    Sealed h₁ { h with writer := some j } := by
  refine ⟨hs.unanswered, hs.quiet, hs.hand, hs.completions, ?_⟩
  have hwire := hs.wire
  rw [hfree] at hwire
  show h.wire ++ unsent (some j) h.drives <+: _
  rw [unsent_of_holder hj, hunsent]
  exact hwire

theorem Sealed.takeReader (hs : Sealed h₁ h) (hj : h.drives[j]? = some p)
    (hhand : p.inHand? = none) : Sealed h₁ { h with reader := some j } := by
  refine ⟨hs.unanswered, hs.quiet, ?_, hs.completions, hs.wire⟩
  show ∀ t ∈ inHand (some j) h.drives, _
  rw [inHand_of_holder hj, hhand]
  intro t ht
  cases ht

/-- Nothing is sent by looking for a frame, and nothing by the peer. -/
theorem Sealed.restream {stream : Option Stream} (hs : Sealed h₁ h) (inlet : Inlet)
    (network : Network) (hsame : stream.map Stream.outgoing = h.stream.map Stream.outgoing) :
    Sealed h₁ { h with stream, inlet, network } := by
  refine ⟨hs.unanswered, hs.quiet, hs.hand, hs.completions, ?_⟩
  show ({ h with stream }).wire ++ _ <+: _
  rw [wire_of_outgoing hsame]
  exact hs.wire

theorem Sealed.sends {slice : Bytes} {rest : List Bytes} {s s' : Stream} (hs : Sealed h₁ h)
    (hl : Locked h.writer h.reader h.drives) (hj : h.drives[j]? = some (.writing (slice :: rest)))
    (hstream : h.stream = some s) (hsend : s.send slice = .ok s') :
    Sealed h₁ (({ h with stream := some s' }).setDrive j (.writing rest)) := by
  have hwriter : h.writer = some j := (hl j _ hj).1 rfl
  obtain ⟨-, rfl⟩ := Stream.send_ok hsend
  refine ⟨hs.unanswered, hs.quiet.imp_right fun hn => hn.set rfl, ?_, hs.completions, ?_⟩
  · have hhand : inHand h.reader (h.drives.set j (.writing rest)) = inHand h.reader h.drives :=
      inHand_set hj rfl
    show ∀ t ∈ inHand h.reader (h.drives.set j (.writing rest)), _
    rw [hhand]
    exact hs.hand
  · -- what is sent now was still to be sent before
    have hwire := hs.wire
    rw [hwriter, unsent_of_holder hj, Hub.wire, hstream] at hwire
    show (s.sent ++ slice) ++ unsent h.writer (h.drives.set j (.writing rest)) <+: _
    rw [hwriter, unsent_set_self hj, List.append_assoc]
    exact hwire

theorem Sealed.complete {later : List (Nat × Except Error Reply)} (hs : Sealed h₁ h)
    (hlater : ∀ done ∈ later, h₁.Foretold done) :
    Sealed h₁ { h with completions := h.completions ++ later } := by
  obtain ⟨before, hbefore, hforetold⟩ := hs.completions
  refine ⟨hs.unanswered, hs.quiet, hs.hand, ⟨before ++ later, ?_, ?_⟩, hs.wire⟩
  · show h.completions ++ later = _
    rw [hbefore, List.append_assoc]
  · intro done hdone
    rcases List.mem_append.mp hdone with hdone | hdone
    · exact hforetold done hdone
    · exact hlater done hdone

theorem Sealed.drain (hs : Sealed h₁ h) (cause : String) : Sealed h₁ (h.drain cause) := by
  have hs' : Sealed h₁ { h with unwritten := [] } :=
    { hs with quiet := hs.quiet.imp_left fun hn => ⟨rfl, hn.2⟩ }
  have hfailed : ∀ done ∈ (h.unanswered ++ h.unwritten).map fun t =>
      (t.caller, (.error (.tainted cause) : Except Error Reply)), h₁.Foretold done := by
    intro done hdone
    obtain ⟨t, -, rfl⟩ := List.mem_map.mp hdone
    exact Or.inr ⟨cause, rfl⟩
  have hdrained := hs'.complete hfailed
  exact { hdrained with unanswered := rfl }

theorem Sealed.releases (hs : Sealed h₁ h) (hl : Locked h.writer h.reader h.drives)
    (hj : h.drives[j]? = some p) (hhand : p.inHand? = some t) (hreads : p.reads)
    (hunsent : p.unsent = []) (outcome : Except Error Reply) :
    Sealed h₁ ((h.complete t outcome).releaseReader j) := by
  have hin : inHand h.reader h.drives = [t] := by
    rw [(hl j p hj).2 hreads, inHand_of_holder hj, hhand]
    rfl
  have hdone : Sealed h₁ (h.complete t outcome) := by
    refine hs.complete fun done hdone => ?_
    rw [List.mem_singleton] at hdone
    subst hdone
    exact Or.inl ⟨t, hs.hand t (by simp [hin]), rfl⟩
  exact hdone.freeReader.setDrive hj (unsent_set hj hunsent.symm) rfl
    (by simp [DrivePhase.isPoised])

theorem Sealed.drive (hs : Sealed h₁ h) (he : h.Ended reason)
    (hl : Locked h.writer h.reader h.drives) (hj : h.drives[j]? = some p)
    (hstep : DriveStep h j p h') : Sealed h₁ h' := by
  cases hstep with
  | begins ht hup =>
    rw [he.taint] at ht
    cases ht
  | locksWriter hfree => exact (hs.takeWriter hfree hj rfl).onward hj
  | findsNothing | hasWritten | sticks =>
    exact hs.freeWriter.setDrive hj rfl (inHand_set hj rfl) (by simp [DrivePhase.isPoised])
  | takes ht =>
    -- a drive that could take a command has none to take
    rcases hs.quiet with hnone | hpoised
    · rw [hnone.1] at ht
      cases ht
    · have hp := hpoised j _ hj
      cases hp
  | sends hstream hsend => exact hs.sends hl hj hstream hsend
  | @returns next =>
    have hs' : Sealed h₁ { h with pool := h.pool.giveBack } := { hs with }
    cases next <;> exact hs'.onward hj rfl rfl (by simp [Afterwards.phase, DrivePhase.isPoised])
  | locksReader hfree => exact (hs.takeReader hj rfl).onward hj
  | missesAll hnil =>
    exact hs.freeReader.setDrive hj (unsent_set hj rfl) rfl (by simp [DrivePhase.isPoised])
  | fetches ht =>
    rw [hs.unanswered] at ht
    cases ht
  | completes stream inlet hi hsame =>
    exact (hs.restream inlet h.network hsame).releases hl hj rfl rfl rfl _
  | fails e stream inlet hi hnone hsame => exact (hs.restream inlet h.network hsame).onward hj
  | drains => exact (hs.drain _).onward hj
  | settles => exact hs.releases hl hj rfl rfl rfl _
  | _ => exact Sealed.onward { hs with } hj

/-! ## Everybody -/

theorem Sealed.closer (hs : Sealed h₁ h) {phase : CloserPhase} (hstep : CloserStep h k phase h') :
    Sealed h₁ h' := by
  cases hstep with
  | drains => exact { hs.drain closedByClient with }
  | shutsDown hup hfree =>
    refine ⟨hs.unanswered, hs.quiet, hs.hand, hs.completions, ?_⟩
    have hsame : ({ h with stream := h.stream.map Stream.shutDown }).wire = h.wire := by
      rw [Hub.wire, Hub.wire, Option.map_map]
      rfl
    show ({ h with stream := h.stream.map Stream.shutDown }).wire ++ _ <+: _
    rw [hsame]
    exact hs.wire
  | _ => exact { hs with }

theorem Sealed.moved (hs : Sealed h₁ h) (he : h.Ended reason) (hclosed : h.pool.closed)
    (hl : Locked h.writer h.reader h.drives) (hmoved : Moved h m h') : Sealed h₁ h' := by
  cases hmoved with
  | enters errand =>
    exact { hs with quiet := hs.quiet.imp_left fun hn => ⟨hn.1, hn.2.enter errand⟩ }
  | closes => exact { hs with }
  | caller hc hstep => exact hs.caller he hclosed hc hstep
  | closer hk hstep => exact hs.closer hstep
  | drive hj hstep | driveExpires hj hstep => exact hs.drive he hl hj hstep
  | callerExpires e stream inlet hc hopens => exact absurd hopens (he.not_opens hc)
  | leaves pool hc hopens =>
    have hs' : Sealed h₁ { h with pool } := { hs with }
    exact hs'.setCaller hc (by simp [CallerPhase.isAdmitted])
  | hangsUp hc hopens => exact absurd hopens (he.not_opens hc)
  | peer stream network hsame => exact hs.restream h.inlet network hsame

/-! ## From the moment on in which the queues are failed -/

/-- What was queued is failed, and nothing else happens in that moment. -/
theorem Sealed.of_drain (hquiet : NoneAdmitted h.callers ∨ NonePoised h.drives) (cause : String) :
    Sealed h (h.drain cause) := by
  refine ⟨rfl, hquiet.imp_left fun hn => ⟨rfl, hn⟩, fun t ht => ht, ⟨_, rfl, ?_⟩,
    List.prefix_refl _⟩
  intro done hdone
  obtain ⟨t, -, rfl⟩ := List.mem_map.mp hdone
  exact Or.inr ⟨cause, rfl⟩

theorem Sealed.of_drains (hdrains : h.drains m) (hstep : h.step? m = some h')
    (hquiet : NoneAdmitted h.callers ∨ NonePoised h.drives) : Sealed h h' := by
  unfold drains at hdrains
  split at hdrains
  · split at hdrains
    · rename_i j stage cause owed hj
      simp only [step?, advance, hj, advanceDrive, Option.some.injEq] at hstep
      subst hstep
      exact (Sealed.of_drain hquiet cause).onward hj
    · cases hdrains
  · split at hdrains
    · rename_i k hk
      simp only [step?, advance, hk, advanceCloser, Option.some.injEq] at hstep
      subst hstep
      exact { Sealed.of_drain hquiet closedByClient with }
    · cases hdrains
  · cases hdrains

/-- Whoever fails the queues has tainted the hub and closed the pool. -/
theorem Staged.drains (hs : h.Staged) (hdrains : h.drains m) :
    h.taint.isSome ∧ h.pool.closed := by
  unfold Hub.drains at hdrains
  split at hdrains
  · split at hdrains
    · rename_i hj
      exact hs.drives .drain _ _ (List.mem_of_getElem? hj)
    · cases hdrains
  · split at hdrains
    · rename_i hk
      exact hs.closers .drain (List.mem_of_getElem? hk)
    · cases hdrains
  · cases hdrains

/-- Somebody is left who need not wait, and who will fail the queues or start a drive that does. -/
def Doomed (h : Hub) : Prop :=
  (∃ (i : Nat) (c : Caller), h.callers[i]? = some c ∧ c.phase.isEntered ∧
    (h.step? (.step (.caller i))).isSome) ∨
  ∃ (j : Nat) (p : DrivePhase), h.drives[j]? = some p ∧ p.isBound ∧
    (h.step? (.step (.drive j))).isSome

theorem doomed_of_entering (hentering : 0 < entering h.callers) : h.Doomed := by
  obtain ⟨c, hmem, hentered⟩ := List.countP_pos_iff.mp hentering
  obtain ⟨i, hc⟩ := List.mem_iff_getElem?.mp hmem
  refine Or.inl ⟨i, c, hc, hentered, ?_⟩
  obtain ⟨errand, phase⟩ := c
  cases phase with
  | entered buffer => simp [step?, advance, hc, advanceCaller]
  | _ => cases hentered

theorem doomed_of_bound (ht : h.taint = some reason) (hj : h.drives[j]? = some p)
    (hbound : p.isBound) : h.Doomed := by
  refine Or.inr ⟨j, p, hj, hbound, ?_⟩
  cases p with
  | starting buffer => simp [step?, advance, hj, advanceDrive, ht]
  | shelving next => simp [step?, advance, hj, advanceDrive]
  | returning next => cases next <;> simp [step?, advance, hj, advanceDrive]
  | failing stage cause owed => simp [step?, advance, hj, advanceDrive]
  | _ => cases hbound

end Hub

namespace Chronicle

variable {w w' w₁ : Chronicle} {m : Move} {before after : List Move} {settings : Settings}
  {network : Network} {reason : String}

/-- What happens after `w₁`, in which somebody fails the queues. -/
structure Aftermath (w₁ w : Chronicle) : Prop where
  /-- No command is completed with a reply but one that a drive had in hand. -/
  completions : ∃ later, w.hub.completions = w₁.hub.completions ++ later ∧
    ∀ done ∈ later, w₁.hub.Foretold done
  /-- Every other command that was queued, or is entered later, has been failed for the taint, or
      will be. -/
  failed : ∀ t ∈ w.entered, t.caller ∉ w₁.hub.completions.map Prod.fst →
    t.caller ∉ (inHand w₁.hub.reader w₁.hub.drives).map Ticket.caller →
    (∃ reason, (t.caller, .error (.tainted reason)) ∈ w.hub.completions) ∨
    t.caller ∈ w.hub.unwritten.map Ticket.caller ∧ w.hub.Doomed
  /-- Nothing is sent but the rest of a command that was being sent. -/
  wire : w.hub.wire <+: w₁.hub.wire ++ unsent w₁.hub.writer w₁.hub.drives

/-- What every move keeps, before the queues are failed and afterwards. -/
structure Regular (w : Chronicle) : Prop where
  kept : w.Kept
  staged : w.hub.Staged
  alone : Alone w.hub.link w.hub.callers

theorem Regular.start (settings : Settings) (network : Network) :
    (start settings network).Regular := by
  refine ⟨Kept.start settings network, Staged.start settings network, ?_⟩
  intro i c hc
  cases hc

theorem Regular.step (hr : w.Regular) (hstep : w.step? m = some w') : w'.Regular := by
  have hkept := hr.kept.step hstep
  obtain ⟨h', hmove, rfl⟩ := exists_of_step? hstep
  exact ⟨hkept, hr.staged.step hmove, hr.alone.moved (moved_of_step? hmove)⟩

theorem Regular.run (hr : w.Regular) (hrun : w.run? before = some w') : w'.Regular :=
  iterates.always Regular.step hr hrun

/-- What holds in a chronicle since the queues were failed in `w₁`. -/
structure Silenced (w₁ w : Chronicle) (reason : String) : Prop where
  kept : w.Kept
  ended : w.hub.Ended reason
  closed : w.hub.pool.closed
  silent : w₁.hub.Sealed w.hub

theorem Silenced.step (hs : Silenced w₁ w reason) (hstep : w.step? m = some w') :
    Silenced w₁ w' reason := by
  have hkept := hs.kept.step hstep
  obtain ⟨h', hmove, rfl⟩ := exists_of_step? hstep
  refine ⟨hkept, (hs.ended.step hmove).1, closed_step? hmove hs.closed, ?_⟩
  exact hs.silent.moved hs.ended hs.closed hs.kept.locked (moved_of_step? hmove)

theorem Silenced.doomed (hs : Silenced w₁ w reason) (hunwritten : w.hub.unwritten ≠ []) :
    w.hub.Doomed := by
  have hpoised : NonePoised w.hub.drives :=
    hs.silent.quiet.resolve_left fun hnone => hunwritten hnone.1
  have hmanned := hs.kept.kept.manned
  have hpos := List.length_pos_iff.mpr hunwritten
  have henough := hmanned.unwritten
  by_cases hentering : 0 < entering w.hub.callers
  · exact doomed_of_entering hentering
  · -- nobody is about to start a drive, so one is left that has taken nothing
    have hstaff : 0 < staff w.hub.drives w.progress DrivePhase.isActive .setOut := by omega
    obtain ⟨⟨p, s⟩, hmem, hcounted⟩ := List.countP_pos_iff.mp hstaff
    obtain ⟨j, hzip⟩ := List.mem_iff_getElem?.mp hmem
    obtain ⟨hj, hprogress⟩ := List.getElem?_zip_eq_some.mp hzip
    simp only [Bool.and_eq_true, beq_iff_eq] at hcounted
    obtain ⟨hactive, rfl⟩ := hcounted
    have hallows := hmanned.allows j p _ hj hprogress
    have hbound := DrivePhase.isBound_of_isActive hactive hallows (hpoised j p hj)
    exact doomed_of_bound hs.ended.taint hj hbound

theorem Silenced.aftermath (hs : Silenced w₁ w reason) : Aftermath w₁ w := by
  have hsealed := hs.silent
  refine ⟨hsealed.completions, ?_, (List.prefix_append _ _).trans hsealed.wire⟩
  intro t ht hnot hhand
  have hmem := hs.kept.kept.located.mem_iff.mpr (List.mem_map_of_mem ht)
  rw [hsealed.unanswered, List.append_nil, List.map_append, List.append_assoc] at hmem
  rcases List.mem_append.mp hmem with hunwritten | hmem
  · refine Or.inr ⟨hunwritten, hs.doomed ?_⟩
    intro hnil
    rw [hnil] at hunwritten
    cases hunwritten
  rcases List.mem_append.mp hmem with hin | hdone
  · -- what is in hand now was in hand before
    obtain ⟨t', ht', hcaller⟩ := List.mem_map.mp hin
    exact absurd (List.mem_map.mpr ⟨t', hsealed.hand t' ht', hcaller⟩) hhand
  · obtain ⟨done, hdone, hcaller⟩ := List.mem_map.mp hdone
    obtain ⟨later, hlater, hforetold⟩ := hsealed.completions
    rw [hlater] at hdone
    rcases List.mem_append.mp hdone with hearlier | hdone'
    · exact absurd (List.mem_map.mpr ⟨done, hearlier, hcaller⟩) hnot
    rcases hforetold done hdone' with ⟨t', ht', hcaller'⟩ | ⟨cause, hcause⟩
    · exact absurd (List.mem_map.mpr ⟨t', ht', hcaller'.symm.trans hcaller⟩) hhand
    · refine Or.inl ⟨cause, ?_⟩
      rw [hlater, ← hcaller, ← hcause]
      exact hdone

/-- Once the queues have been failed, while nobody opens the stream and callers with a permit and
    drives without a command are not both left, nothing happens but what was under way. -/
theorem aftermath_of_run (hbefore : (start settings network).run? before = some w₁)
    (hdrains : w₁.hub.drains m) (hsettled : w₁.hub.settled)
    (hquiet : NoneAdmitted w₁.hub.callers ∨ NonePoised w₁.hub.drives)
    (hafter : w₁.run? (m :: after) = some w) : Aftermath w₁ w := by
  have hr := (Regular.start settings network).run hbefore
  obtain ⟨htaint, hclosed⟩ := hr.staged.drains hdrains
  obtain ⟨reason, htaint⟩ := Option.isSome_iff_exists.mp htaint
  obtain ⟨w₂, hfirst, hrest⟩ := iterates.exists_of_cons hafter
  have hkept := hr.kept.step hfirst
  obtain ⟨h', hmove, rfl⟩ := exists_of_step? hfirst
  have hended : w₁.hub.Ended reason := ⟨hr.alone, htaint, hsettled⟩
  have hsilenced : Silenced w₁ (w₁.note m h') reason :=
    ⟨hkept, (hended.step hmove).1, closed_step? hmove hclosed, .of_drains hdrains hmove hquiet⟩
  have hkeeps := iterates.always (P := fun w => Silenced w₁ w reason) Silenced.step hsilenced hrest
  exact hkeeps.aftermath

/-- Three callers share a stream. The drive of the first reads until its patience ends, and taints
    the hub and closes the pool. By then the second caller's drive has started and maybe begun, and
    the third caller has a permit. -/
def untilDrain (begun : Bool) : List Move :=
  let caller (i steps : Nat) := List.replicate steps (Move.step (.caller i))
  let drive (j steps : Nat) := List.replicate steps (Move.step (.drive j))
  List.replicate 3 (.enter (.call Catalog.ping)) ++ caller 0 7 ++ caller 1 6 ++ caller 2 4
    ++ drive 0 9 ++ drive 1 begun.toNat ++ [.expire (.drive 0)] ++ drive 0 2

/-- The queues are failed, the third caller enters its command, the second drive goes as far as it
    can, and the reply that the first drive had not waited for comes in. -/
def fromDrain (steps : Nat) : List Move :=
  let caller (i steps : Nat) := List.replicate steps (Move.step (.caller i))
  let drive (j steps : Nat) := List.replicate steps (Move.step (.drive j))
  drive 0 1 ++ caller 2 2 ++ drive 0 1 ++ drive 1 steps
    ++ [.receive [43, 80, 79, 78, 71, 13, 10]] ++ drive 1 1

theorem aftermath_of_run_patience : ∃ settings network w₁ w,
    (start settings network).run? (untilDrain false) = some w₁ ∧
    w₁.hub.drains (.step (.drive 0)) ∧ w₁.hub.settled ∧ NonePoised w₁.hub.drives ∧
    w₁.run? (fromDrain 5) = some w ∧ w₁.Aftermath w := by
  have hend : ((start { Settings.default with readTimeout := some ⟨1, 0⟩ }
      (.accepts (Stream.greeting []))).run? (untilDrain false)).map (fun w₁ =>
        (w₁.hub.drains (.step (.drive 0)), w₁.hub.settled,
          w₁.hub.drives.all fun p => !p.isPoised, (w₁.run? (fromDrain 5)).isSome))
      = some (true, true, true, true) := by decide +kernel
  obtain ⟨w₁, hrun, hw₁⟩ := Option.map_eq_some_iff.mp hend
  rw [Prod.mk.injEq, Prod.mk.injEq, Prod.mk.injEq] at hw₁
  obtain ⟨hdrains, hsettled, hnone, hsome⟩ := hw₁
  obtain ⟨w, hafter⟩ := Option.isSome_iff_exists.mp hsome
  have hpoised : NonePoised w₁.hub.drives := by
    intro j p hj
    simpa using List.all_eq_true.mp hnone p (List.mem_of_getElem? hj)
  exact ⟨_, _, w₁, w, hrun, hdrains, hsettled, hpoised, hafter,
    aftermath_of_run hrun hdrains hsettled (Or.inr hpoised) hafter⟩

/-- The second drive has begun and the third caller has a permit when the queues are failed. So the
    drive writes the caller's command, and completes it with the first caller's reply. And if the
    hub is closed while somebody dials, the password is sent when the queues have long been
    failed. -/
theorem late_reply :
    (∃ w₁ w, (start { Settings.default with readTimeout := some ⟨1, 0⟩ }
        (.accepts (Stream.greeting []))).run? (untilDrain true) = some w₁ ∧
      w₁.hub.drains (.step (.drive 0)) = true ∧
      (inHand w₁.hub.reader w₁.hub.drives).map Ticket.caller = [0] ∧
      unsent w₁.hub.writer w₁.hub.drives = [] ∧
      w₁.run? (fromDrain 8) = some w ∧ w₁.hub.wire.length < w.hub.wire.length ∧
      w.hub.completion? 2 = some (.ok (.status "PONG"))) ∧
    ∃ w₁ w, (start { Settings.default with password := some "s" }
        (.accepts (Stream.greeting []))).run? ([.enter (.call Catalog.ping)]
          ++ List.replicate 2 (.step (.caller 0)) ++ [.close]
          ++ List.replicate 2 (.step (.closer 0))) = some w₁ ∧
      w₁.hub.drains (.step (.closer 0)) = true ∧ w₁.hub.wire = [] ∧
      w₁.run? (List.replicate 2 (.step (.closer 0)) ++ [.step (.caller 0)]) = some w ∧
      w.hub.closers = [.done] ∧ w.hub.wire ≠ [] := by
  have hrace : ((start { Settings.default with readTimeout := some ⟨1, 0⟩ }
      (.accepts (Stream.greeting []))).run? (untilDrain true)).map (fun w₁ =>
        (decide (w₁.hub.drains (.step (.drive 0)) = true ∧
            (inHand w₁.hub.reader w₁.hub.drives).map Ticket.caller = [0] ∧
            unsent w₁.hub.writer w₁.hub.drives = []),
          (w₁.run? (fromDrain 8)).map fun w =>
            (decide (w₁.hub.wire.length < w.hub.wire.length),
              (w.hub.completion? 2).bind Except.toOption)))
      = some (true, some (true, some (.status "PONG"))) := by decide +kernel
  have hclose : ((start { Settings.default with password := some "s" }
      (.accepts (Stream.greeting []))).run? ([.enter (.call Catalog.ping)]
        ++ List.replicate 2 (.step (.caller 0)) ++ [.close]
        ++ List.replicate 2 (.step (.closer 0)))).map (fun w₁ =>
        (w₁.hub.drains (.step (.closer 0)), w₁.hub.wire,
          (w₁.run? (List.replicate 2 (.step (.closer 0)) ++ [.step (.caller 0)])).map fun w =>
            (w.hub.closers, decide (w.hub.wire ≠ []))))
      = some (true, [], some ([.done], true)) := by decide +kernel
  constructor
  · obtain ⟨w₁, hbefore, hw₁⟩ := Option.map_eq_some_iff.mp hrace
    rw [Prod.mk.injEq, decide_eq_true_eq] at hw₁
    obtain ⟨⟨hdrains, hhand, hunsent⟩, hw⟩ := hw₁
    obtain ⟨w, hafter, hw⟩ := Option.map_eq_some_iff.mp hw
    rw [Prod.mk.injEq, decide_eq_true_eq] at hw
    obtain ⟨outcome, houtcome, hreply⟩ := Option.bind_eq_some_iff.mp hw.2
    cases outcome with
    | error e => cases hreply
    | ok r =>
      cases hreply
      exact ⟨w₁, w, hbefore, hdrains, hhand, hunsent, hafter, hw.1, houtcome⟩
  · obtain ⟨w₁, hbefore, hw₁⟩ := Option.map_eq_some_iff.mp hclose
    rw [Prod.mk.injEq, Prod.mk.injEq] at hw₁
    obtain ⟨hdrains, hwire, hw⟩ := hw₁
    obtain ⟨w, hafter, hw⟩ := Option.map_eq_some_iff.mp hw
    rw [Prod.mk.injEq, decide_eq_true_eq] at hw
    exact ⟨w₁, w, hbefore, hdrains, hwire, hafter, hw⟩

end Chronicle

end RespLink
