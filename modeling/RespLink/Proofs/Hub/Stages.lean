import RespLink.Hub.Schedule
import RespLink.Proofs.Connection.Conversation
import RespLink.Proofs.Hub.Moves

/-!
# Stages — a call that nobody disturbs

A hub is made for callers who come at any time. Where one comes when all the others have finished,
there is no choice left: at each stage of the call one thing can happen and nothing else
(`Hub.Leads`), until the hub looks for a frame, and then it is for the peer to decide. What the peer
does before makes no difference to the stage.

`Hub.place` is a hub that serves one call, put together from the hub before and the stage.
-/

namespace RespLink

/-- Whether a caller has come to its end. -/
def CallerPhase.isFinished : CallerPhase → Bool
  | .finished _ => true
  | _ => false

namespace Pool

/-- Somebody who asks gets a permit, and a buffer. -/
structure Full (p : Pool) : Prop where
  isOpen : p.closed = false
  permits : 0 < p.permits
  line : p.line = []
  shelf : p.shelf.head? = some []

/-- The pool without a permit that it had. -/
def lendPermit (p : Pool) : Pool := { p with permits := p.permits - 1 }

/-- The pool without a permit and a buffer that it had. -/
def lendBuffer (p : Pool) : Pool := { p with permits := p.permits - 1, shelf := p.shelf.tail }

variable {p : Pool}

theorem Full.ask_eq (h : p.Full) (who : Nat) : p.ask who = (.permitted, p.lendPermit) := by
  rw [ask, if_neg (by simp [h.isOpen]), if_pos h.permits]
  rfl

theorem takeBuffer_lendPermit (p : Pool) : p.lendPermit.takeBuffer = ([], p.lendBuffer) := by
  simp only [takeBuffer, lendPermit, lendBuffer]
  cases p.shelf <;> rfl

theorem Full.putBuffer_eq (h : p.Full) : p.lendBuffer.putBuffer = p.lendPermit := by
  obtain ⟨rest, hshelf⟩ := List.head?_eq_some_iff.mp h.shelf
  simp [putBuffer, lendBuffer, lendPermit, hshelf]

theorem Full.giveBack_eq (h : p.Full) : p.lendPermit.giveBack = p := by
  have hpermits := Nat.sub_add_cancel (Nat.succ_le_of_lt h.permits)
  simp only [giveBack, lendPermit, h.line, hpermits]
  rw [← h.line]

theorem full_start {capacity count : Nat} (h : 0 < count) : (start capacity count).Full := by
  refine ⟨rfl, h, rfl, ?_⟩
  cases count with
  | zero => exact absurd h (Nat.lt_irrefl 0)
  | succ count => rfl

end Pool

namespace Hub

variable {h h' : Hub} {c : Caller} {p? : Option DrivePhase} {p : DrivePhase} {t : Task}

/-! ## One thing after the other -/

/-- Nobody can take a step, and nobody's patience ends. -/
def Settled (h : Hub) : Prop := ∀ t, h.advance t = none ∧ h.expire t = none

/-- One thing can happen to a hub without the peer, and nothing else. -/
structure Leads (h h' : Hub) : Prop where
  possible : ∃ t, h.advance t = some h' ∨ h.expire t = some h'
  only : ∀ {t : Task} {h'' : Hub}, h.advance t = some h'' ∨ h.expire t = some h'' → h'' = h'

theorem Settled.stays (hs : h.Settled) : ¬ (h.advance t = some h' ∨ h.expire t = some h') := by
  rw [(hs t).1, (hs t).2]
  rintro (hstep | hstep) <;> cases hstep

theorem Leads.not_settled (hl : h.Leads h') : ¬ h.Settled := by
  intro hsettled
  obtain ⟨t, hstep⟩ := hl.possible
  exact hsettled.stays hstep

/-- Somebody looks for the next frame, or waits until patience ends, and nobody else can do
    anything. -/
structure Looks (h : Hub) (t : Task) (next : Hub → Except Error Reply → Hub) : Prop where
  moves : ∀ h', h.advance t = some h' ∨ h.expire t = some h' ↔
    (h.intake.1.outcome? h.settings.readTimeout).map (next h.intake.2) = some h'
  others : ∀ t', t' ≠ t → h.advance t' = none ∧ h.expire t' = none

namespace Looks

variable {next : Hub → Except Error Reply → Hub} {intake : Intake} {o : Except Error Reply}

theorem leads (hl : h.Looks t next) (hintake : h.intake = (intake, h'))
    (ho : intake.outcome? h.settings.readTimeout = some o) : h.Leads (next h' o) := by
  have hmoves := hl.moves
  rw [hintake, ho] at hmoves
  refine ⟨⟨t, (hmoves _).mpr rfl⟩, fun {t' h''} hstep => ?_⟩
  by_cases ht : t' = t
  · subst ht
    exact (Option.some.inj ((hmoves _).mp hstep)).symm
  · obtain ⟨hadvance, hexpire⟩ := hl.others t' ht
    rw [hadvance, hexpire] at hstep
    rcases hstep with hstep | hstep <;> cases hstep

theorem settled (hl : h.Looks t next) (hintake : h.intake = (intake, h'))
    (ho : intake.outcome? h.settings.readTimeout = none) : h.Settled := by
  have hmoves := hl.moves
  rw [hintake, ho] at hmoves
  intro t'
  by_cases ht : t' = t
  · subst ht
    simp only [Option.map_none, reduceCtorEq, iff_false, not_or] at hmoves
    exact ⟨Option.eq_none_iff_forall_ne_some.mpr fun h'' => (hmoves h'').1,
      Option.eq_none_iff_forall_ne_some.mpr fun h'' => (hmoves h'').2⟩
  · exact hl.others t' ht

end Looks

/-! ## One caller more -/

/-- Everybody has come to their end. -/
structure Still (h : Hub) : Prop where
  callers : ∀ c ∈ h.callers, c.phase.isFinished
  drives : ∀ p ∈ h.drives, p = .done
  closers : h.closers = []

/-- Everybody has come to their end, and nothing is known of the command of one caller more. -/
structure Quiet (h : Hub) : Prop extends Still h where
  unheard : ∀ done ∈ h.completions, done.1 < h.callers.length

theorem Quiet.find_eq_none (hq : h.Quiet) :
    (h.completions.find? fun done => done.1 == h.callers.length) = none := by
  refine List.find?_eq_none.mpr fun done hdone => ?_
  have hlt := hq.unheard done hdone
  simp only [beq_iff_eq]
  omega

theorem Quiet.completion (hq : h.Quiet) : h.completion? h.callers.length = none := by
  rw [completion?, hq.find_eq_none]
  rfl

/-- Who is past waiting for a frame does not run out of patience. -/
theorem expire_eq_none (hcaller : ∀ i c, t = .caller i → h.callers[i]? = some c →
      c.phase ≠ .authenticating)
    (hdrive : ∀ j p, t = .drive j → h.drives[j]? = some p → ∀ ticket, p ≠ .reading ticket) :
    h.expire t = none := by
  unfold expire
  split
  · rename_i span h₁ _ hi
    obtain ⟨stream, inlet, rfl, -⟩ := exists_of_intake hi
    cases t with
    | caller i =>
      dsimp only
      split
      · rename_i errand hc
        exact absurd rfl (hcaller i _ rfl hc)
      · rfl
    | drive j =>
      dsimp only
      split
      · rename_i ticket hp
        exact absurd rfl (hdrive j _ rfl hp ticket)
      · rfl
    | closer k => rfl
  · rfl

/-- Those who have come to their end do nothing. -/
theorem stuck (hcaller : ∀ i c, t = .caller i → h.callers[i]? = some c → c.phase.isFinished)
    (hdrive : ∀ j p, t = .drive j → h.drives[j]? = some p → p = .done) (hclosers : h.closers = []) :
    h.advance t = none ∧ h.expire t = none := by
  constructor
  · cases t with
    | caller i =>
      simp only [advance]
      cases hc : h.callers[i]? with
      | none => rfl
      | some c =>
        have hfinished := hcaller i c rfl hc
        obtain ⟨errand, phase⟩ := c
        cases phase with
        | finished outcome => rfl
        | _ => cases hfinished
    | drive j =>
      simp only [advance]
      cases hp : h.drives[j]? with
      | none => rfl
      | some p =>
        rw [hdrive j p rfl hp]
        rfl
    | closer k => simp [advance, hclosers]
  · refine expire_eq_none (fun i c ht hc hphase => ?_) fun j p ht hp ticket hphase => ?_
    · have hfinished := hcaller i c ht hc
      rw [hphase] at hfinished
      cases hfinished
    · cases (hdrive j p ht hp).symm.trans hphase

theorem Still.settled (hq : h.Still) : h.Settled := fun _ =>
  stuck (fun _ c _ hc => hq.callers c (List.mem_of_getElem? hc))
    (fun _ p _ hp => hq.drives p (List.mem_of_getElem? hp)) hq.closers

/-- The hub with one caller more, and perhaps one drive more. -/
def joined (h : Hub) (c : Caller) (p? : Option DrivePhase) : Hub :=
  { h with callers := h.callers ++ [c], drives := h.drives ++ p?.toList }

theorem Still.stuck_joined (hq : h.Still) (hcaller : t ≠ .caller h.callers.length)
    (hdrive : t ≠ .drive h.drives.length ∨ p? = none ∨ p? = some .done) :
    (h.joined c p?).advance t = none ∧ (h.joined c p?).expire t = none := by
  refine stuck ?_ ?_ hq.closers
  · rintro i x rfl hx
    rcases getElem?_concat_cases hx with hx | ⟨rfl, -⟩
    · exact hq.callers x (List.mem_of_getElem? hx)
    · exact absurd rfl hcaller
  · rintro j p rfl hp
    cases p? with
    | none =>
      rw [joined, Option.toList_none, List.append_nil] at hp
      exact hq.drives p (List.mem_of_getElem? hp)
    | some last =>
      rcases getElem?_concat_cases hp with hp | ⟨rfl, rfl⟩
      · exact hq.drives p (List.mem_of_getElem? hp)
      · simpa using hdrive

theorem advance_caller_joined :
    (h.joined c p?).advance (.caller h.callers.length) =
      (h.joined c p?).advanceCaller h.callers.length c := by
  simp only [advance, joined, List.getElem?_concat_length]

theorem advance_drive_joined :
    (h.joined c (some p)).advance (.drive h.drives.length) =
      (h.joined c (some p)).advanceDrive h.drives.length p := by
  simp only [advance, joined, Option.toList_some, List.getElem?_concat_length]

theorem leads_of_step (hstep : h.advance t = some h') (hexpire : h.expire t = none)
    (hothers : ∀ t', t' ≠ t → h.advance t' = none ∧ h.expire t' = none) : h.Leads h' := by
  refine ⟨⟨t, .inl hstep⟩, fun {t' h''} hmove => ?_⟩
  by_cases ht : t' = t
  · subst ht
    rw [hstep, hexpire] at hmove
    rcases hmove with hmove | hmove
    · exact (Option.some.inj hmove).symm
    · cases hmove
  · obtain ⟨hadvance, hnone⟩ := hothers t' ht
    rw [hadvance, hnone] at hmove
    rcases hmove with hmove | hmove <;> cases hmove

/-- The last caller goes on while no drive does. -/
theorem Still.leads_of_caller (hq : h.Still) (hp : p? = none ∨ p? = some .done)
    (hphase : c.phase ≠ .authenticating)
    (hstep : (h.joined c p?).advanceCaller h.callers.length c = some h') :
    (h.joined c p?).Leads h' := by
  refine leads_of_step (advance_caller_joined.trans hstep) (expire_eq_none ?_ ?_) fun t' ht =>
    hq.stuck_joined ht (.inr hp)
  · intro i x hi hx
    cases hi
    rw [joined, List.getElem?_concat_length] at hx
    cases hx
    exact hphase
  · intro j p hj
    cases hj

/-- A caller that waits for the outcome of its command leaves everything to its drive. -/
theorem Quiet.stuck_waiting {errand : Errand} (hq : h.Quiet) (ht : t ≠ .drive h.drives.length) :
    (h.joined ⟨errand, .waiting⟩ p?).advance t = none ∧
      (h.joined ⟨errand, .waiting⟩ p?).expire t = none := by
  by_cases hcaller : t = .caller h.callers.length
  · subst hcaller
    constructor
    · rw [advance_caller_joined]
      have hwaits : (h.joined ⟨errand, .waiting⟩ p?).completion? h.callers.length = none :=
        hq.completion
      simp only [advanceCaller, hwaits]
    · refine expire_eq_none (fun i x hi hx => ?_) fun j p hj => by cases hj
      cases hi
      rw [joined, List.getElem?_concat_length] at hx
      cases hx
      exact CallerPhase.noConfusion
  · exact hq.stuck_joined hcaller (.inl ht)

/-- The last drive goes on while the last caller waits. -/
theorem Quiet.leads_of_drive {errand : Errand} (hq : h.Quiet) (hp : ∀ ticket, p ≠ .reading ticket)
    (hstep : (h.joined ⟨errand, .waiting⟩ (some p)).advanceDrive h.drives.length p = some h') :
    (h.joined ⟨errand, .waiting⟩ (some p)).Leads h' := by
  refine leads_of_step (advance_drive_joined.trans hstep) (expire_eq_none ?_ ?_) fun t' ht =>
    hq.stuck_waiting ht
  · intro i x hi
    cases hi
  · intro j x hj hx
    cases hj
    rw [joined, Option.toList_some, List.getElem?_concat_length] at hx
    cases hx
    exact hp

/-! ## Looking for a frame -/

theorem Quiet.looks_of_reading (hq : h.Quiet) (errand : Errand) (ticket : Ticket) :
    (h.joined ⟨errand, .waiting⟩ (some (.reading ticket))).Looks (.drive h.drives.length)
      fun found o =>
        match o with
        | .ok r => (found.complete ticket (.ok r)).releaseReader h.drives.length
        | .error e => found.readFailed h.drives.length ticket e := by
  refine ⟨fun h' => ?_, fun t' ht => hq.stuck_waiting ht⟩
  have hadvance := advance_drive_joined (h := h) (c := ⟨errand, .waiting⟩) (p := .reading ticket)
  have hlast : (h.joined ⟨errand, .waiting⟩ (some (.reading ticket))).drives[h.drives.length]? =
      some (.reading ticket) := List.getElem?_concat_length
  generalize h.joined ⟨errand, .waiting⟩ (some (.reading ticket)) = hub at hadvance hlast ⊢
  rcases hi : hub.intake with ⟨intake, found⟩
  obtain ⟨stream, inlet, rfl, -⟩ := exists_of_intake hi
  rw [hadvance]
  cases intake with
  | pending =>
    cases hpatience : hub.settings.readTimeout <;>
      simp [advanceDrive, expire, hi, hpatience, hlast, Intake.outcome?]
  | _ => simp [advanceDrive, expire, hi, Intake.outcome?]

theorem Still.looks_of_authenticating (hq : h.Still) (errand : Errand) :
    (h.joined ⟨errand, .authenticating⟩ none).Looks (.caller h.callers.length)
      fun found o =>
        match o with
        | .ok r => found.answered h.callers.length r
        | .error e => found.openFailed h.callers.length e := by
  refine ⟨fun h' => ?_, fun t' ht => hq.stuck_joined ht (.inr (.inl rfl))⟩
  have hadvance :
      (h.joined ⟨errand, .authenticating⟩ none).advance (.caller h.callers.length) = _ :=
    advance_caller_joined
  have hlast : (h.joined ⟨errand, .authenticating⟩ none).callers[h.callers.length]? =
      some ⟨errand, .authenticating⟩ := List.getElem?_concat_length
  generalize h.joined ⟨errand, .authenticating⟩ none = hub at hadvance hlast ⊢
  rcases hi : hub.intake with ⟨intake, found⟩
  obtain ⟨stream, inlet, rfl, -⟩ := exists_of_intake hi
  rw [hadvance]
  cases intake with
  | pending =>
    cases hpatience : hub.settings.readTimeout <;>
      simp [advanceCaller, expire, hi, hpatience, hlast, Intake.outcome?]
  | _ => simp [advanceCaller, expire, hi, Intake.outcome?]

/-! ## The steps of a call -/

/-- The hub with a call that no drive has been started for. -/
def arriving (h : Hub) (q : Request) (phase : CallerPhase) : Hub := h.joined ⟨.call q, phase⟩ none

/-- The hub with a call whose drive is somewhere. -/
def driven (h : Hub) (q : Request) (p : DrivePhase) : Hub :=
  h.joined ⟨.call q, .waiting⟩ (some p)

/-- The hub after bytes were sent. -/
def wired (h : Hub) (bytes : Bytes) : Hub :=
  { h with stream := h.stream.map fun s : Stream => s.sending bytes }

theorem wired_eq {s : Stream} (hs : h.stream = some s) (bytes : Bytes) :
    h.wired bytes = { h with stream := some (s.sending bytes) } := by
  rw [wired, hs]
  rfl

theorem wired_nil (h : Hub) : h.wired [] = h := by
  have hsame : h.stream.map (fun s : Stream => s.sending []) = h.stream := by
    cases h.stream with
    | none => rfl
    | some s => simp [Stream.sending]
  rw [wired, hsame]

theorem wired_wired (h : Hub) (before bytes : Bytes) :
    (h.wired before).wired bytes = h.wired (before ++ bytes) := by
  simp [wired, Stream.sending, Function.comp_def]

theorem modify_concat {α : Type} (l : List α) (a : α) (f : α → α) :
    (l ++ [a]).modify l.length f = l ++ [f a] := by
  induction l with
  | nil => rfl
  | cons b l ih => exact congrArg (b :: ·) ih

theorem setCaller_joined (phase : CallerPhase) :
    (h.joined c p?).setCaller h.callers.length phase = h.joined ⟨c.errand, phase⟩ p? := by
  simp only [setCaller, joined, modify_concat]

theorem setDrive_driven {q : Request} (next : DrivePhase) :
    (h.driven q p).setDrive h.drives.length next = h.driven q next := by
  simp [setDrive, driven, joined]

theorem start_arriving (q : Request) (phase : CallerPhase) :
    { h.arriving q phase with drives := (h.arriving q phase).drives ++ [p] } =
      h.joined ⟨.call q, phase⟩ (some p) := by
  simp [arriving, joined]

variable {q : Request}

/-- A caller goes on that has not started its drive. -/
theorem Quiet.arrives {phase next : CallerPhase} {b : Hub} (hq : h.Quiet)
    (hphase : phase ≠ .authenticating) (hlength : b.callers.length = h.callers.length)
    (hstep : (h.arriving q phase).advanceCaller h.callers.length ⟨.call q, phase⟩ =
      some ((b.arriving q phase).setCaller h.callers.length next)) :
    (h.arriving q phase).Leads (b.arriving q next) := by
  refine hq.leads_of_caller (.inl rfl) hphase (hstep.trans (congrArg some ?_))
  rw [← hlength]
  exact setCaller_joined next

theorem Quiet.enters (hq : h.Quiet) (ht : h.taint = none)
    (hr : h.refusal? q.command = none) :
    (h.arriving q .entering).Leads (h.arriving q .linking) := by
  refine hq.arrives CallerPhase.noConfusion rfl ?_
  have ht' : (h.arriving q .entering).taint = none := ht
  have hr' : (h.arriving q .entering).refusal? q.command = none := hr
  simp only [advanceCaller, ht', hr']

theorem Quiet.links (hq : h.Quiet) (ht : h.taint = none) (hl : h.link = .up) :
    (h.arriving q .linking).Leads (h.arriving q .claiming) := by
  refine hq.arrives CallerPhase.noConfusion rfl ?_
  have ht' : (h.arriving q .linking).taint = none := ht
  have hl' : (h.arriving q .linking).link = .up := hl
  simp only [advanceCaller, ht', hl']

theorem Quiet.claims (hq : h.Quiet) (hp : h.pool.Full) :
    (h.arriving q .claiming).Leads
      ({ h with pool := h.pool.lendPermit }.arriving q .permitted) := by
  refine hq.arrives (b := { h with pool := h.pool.lendPermit }) CallerPhase.noConfusion rfl ?_
  have hp' : (h.arriving q .claiming).pool.ask h.callers.length =
    (.permitted, h.pool.lendPermit) := hp.ask_eq _
  simp only [advanceCaller, hp']
  rfl

theorem Quiet.takesBuffer {buffer : Bytes} {pool : Pool} (hq : h.Quiet)
    (htake : h.pool.takeBuffer = (buffer, pool)) :
    (h.arriving q .permitted).Leads ({ h with pool }.arriving q (.holding buffer)) := by
  refine hq.arrives (b := { h with pool }) CallerPhase.noConfusion rfl ?_
  have htake' : (h.arriving q .permitted).pool.takeBuffer = (buffer, pool) := htake
  simp only [advanceCaller, htake']
  rfl

/-- The command of one caller more. -/
def ticket (h : Hub) (q : Request) : Ticket := ⟨h.callers.length, q.command⟩

theorem Quiet.queues {buffer : Bytes} (hq : h.Quiet) (hu : h.unwritten = []) :
    (h.arriving q (.holding buffer)).Leads
      ({ h with unwritten := [h.ticket q] }.arriving q (.entered buffer)) := by
  refine hq.arrives (b := { h with unwritten := [h.ticket q] }) CallerPhase.noConfusion rfl ?_
  have hu' : (h.arriving q (.holding buffer)).unwritten = [] := hu
  simp only [advanceCaller, hu']
  rfl

theorem Quiet.startsDrive {buffer : Bytes} (hq : h.Quiet) :
    (h.arriving q (.entered buffer)).Leads (h.driven q (.starting buffer)) := by
  refine hq.leads_of_caller (.inl rfl) CallerPhase.noConfusion ?_
  show some (Hub.setCaller { h.arriving q (.entered buffer) with
    drives := (h.arriving q (.entered buffer)).drives ++ [.starting buffer] } _ _) = _
  rw [start_arriving, setCaller_joined]
  rfl

/-- A drive goes on that does not look for a frame. -/
theorem Quiet.drivesOn {next : DrivePhase} {b : Hub} (hq : h.Quiet)
    (hp : ∀ ticket, p ≠ .reading ticket) (hlength : b.drives.length = h.drives.length)
    (hstep : (h.driven q p).advanceDrive h.drives.length p =
      some ((b.driven q p).setDrive h.drives.length next)) :
    (h.driven q p).Leads (b.driven q next) := by
  refine hq.leads_of_drive hp (hstep.trans (congrArg some ?_))
  rw [← hlength]
  exact setDrive_driven next

theorem Quiet.begins {buffer : Bytes} (hq : h.Quiet) (ht : h.taint = none) (hl : h.link = .up) :
    (h.driven q (.starting buffer)).Leads (h.driven q (.wantsWriter buffer)) := by
  refine hq.drivesOn (by simp) rfl ?_
  have ht' : (h.driven q (.starting buffer)).taint = none := ht
  have hl' : (h.driven q (.starting buffer)).link = .up := hl
  simp only [advanceDrive, ht', hl', if_true]

theorem Quiet.locksWriter {buffer : Bytes} (hq : h.Quiet) (hw : h.writer = none) :
    (h.driven q (.wantsWriter buffer)).Leads
      ({ h with writer := some h.drives.length }.driven q (.choosing buffer)) :=
  hq.drivesOn (b := { h with writer := some h.drives.length }) (by simp) rfl (if_pos hw)

theorem Quiet.takes {buffer : Bytes} {ticket : Ticket} (hq : h.Quiet)
    (hu : h.unwritten = [ticket]) (ha : h.unanswered = []) :
    (h.driven q (.choosing buffer)).Leads
      ({ h with unwritten := [], unanswered := [ticket] }.driven q
        (.writing (Transfer.write h.pool.capacity buffer ticket.command).slices)) := by
  refine hq.drivesOn (b := { h with unwritten := [], unanswered := [ticket] }) (by simp) rfl ?_
  have hu' : (h.driven q (.choosing buffer)).unwritten = [ticket] := hu
  have ha' : (h.driven q (.choosing buffer)).unanswered = [] := ha
  simp only [advanceDrive, hu', ha']
  rfl

theorem Quiet.sends {slice : Bytes} {rest : List Bytes} {s : Stream} (hq : h.Quiet)
    (hs : h.stream = some s) (hsend : s.Sendable) :
    (h.driven q (.writing (slice :: rest))).Leads ((h.wired slice).driven q (.writing rest)) := by
  refine hq.drivesOn (b := h.wired slice) (by simp) rfl ?_
  have hs' : (h.driven q (.writing (slice :: rest))).stream = some s := hs
  simp only [advanceDrive, send_of_stream hs', hsend.send_eq, wired_eq hs]
  rfl

theorem Quiet.hasWritten (hq : h.Quiet) :
    (h.driven q (.writing [])).Leads ({ h with writer := none }.driven q (.shelving .read)) :=
  hq.drivesOn (b := { h with writer := none }) (by simp) rfl rfl

theorem Quiet.shelves {next : Afterwards} {pool : Pool} (hq : h.Quiet)
    (hput : h.pool.putBuffer = pool) :
    (h.driven q (.shelving next)).Leads ({ h with pool }.driven q (.returning next)) := by
  subst hput
  exact hq.drivesOn (b := { h with pool := h.pool.putBuffer }) (by simp) rfl rfl

theorem Quiet.returns {pool : Pool} (hq : h.Quiet) (hgive : h.pool.giveBack = pool) :
    (h.driven q (.returning .read)).Leads ({ h with pool }.driven q .wantsReader) := by
  subst hgive
  exact hq.drivesOn (b := { h with pool := h.pool.giveBack }) (by simp) rfl rfl

theorem Quiet.locksReader (hq : h.Quiet) (hr : h.reader = none) :
    (h.driven q .wantsReader).Leads
      ({ h with reader := some h.drives.length }.driven q .matching) :=
  hq.drivesOn (b := { h with reader := some h.drives.length }) (by simp) rfl (if_pos hr)

theorem Quiet.fetches {ticket : Ticket} (hq : h.Quiet) (ha : h.unanswered = [ticket]) :
    (h.driven q .matching).Leads ({ h with unanswered := [] }.driven q (.reading ticket)) := by
  refine hq.drivesOn (b := { h with unanswered := [] }) (by simp) rfl ?_
  have ha' : (h.driven q .matching).unanswered = [ticket] := ha
  simp only [advanceDrive, ha']
  rfl

variable {reason : String} {owed : Option (Ticket × Error)}

theorem Quiet.taints (hq : h.Quiet) :
    (h.driven q (.failing .taint reason owed)).Leads
      ((h.tainted reason).driven q (.failing .closePool reason owed)) :=
  hq.drivesOn (b := h.tainted reason) (by simp) rfl rfl

theorem Quiet.closesPool (hq : h.Quiet) :
    (h.driven q (.failing .closePool reason owed)).Leads
      (h.closePool.driven q (.failing .drain reason owed)) :=
  hq.drivesOn (b := h.closePool) (by simp) rfl rfl

theorem drain_eq (hu : h.unwritten = []) (ha : h.unanswered = []) (reason : String) :
    h.drain reason = h := by
  cases h
  cases hu
  cases ha
  simp [drain]

theorem Quiet.drains (hq : h.Quiet) (hu : h.unwritten = []) (ha : h.unanswered = []) :
    (h.driven q (.failing .drain reason owed)).Leads
      (h.driven q (.failing .conclude reason owed)) := by
  refine hq.drivesOn (by simp) rfl ?_
  have hdrain := drain_eq (h := h.driven q (.failing .drain reason owed)) hu ha reason
  simp only [advanceDrive, advanceFailure, hdrain]

theorem Quiet.concludes {ticket : Ticket} {e : Error} (hq : h.Quiet) :
    (h.driven q (.failing .conclude reason (some (ticket, e)))).Leads
      ({ h.complete ticket (.error e) with reader := none }.driven q .done) :=
  hq.drivesOn (b := { h.complete ticket (.error e) with reader := none }) (by simp) rfl rfl

/-! ## The stages of a call -/

/-- Where a call is that nobody disturbs. -/
inductive Stage where
  | entering
  | linking
  | claiming
  | permitted
  | holding
  | entered
  | starting
  | wantsWriter
  | choosing
  /-- So many slices of the command have been sent. -/
  | writing (count : Nat)
  | shelving
  | returning
  | wantsReader
  | matching
  | reading
  /-- Something else than a frame came, and this is what it means. -/
  | failing (stage : FailureStage) (e : Error)
  | answered (o : Except Error Reply)

/-- The stage of a call when its answer was found, or something else than a frame. -/
def Stage.found : Except Error Reply → Stage
  | .ok r => .answered (.ok r)
  | .error e => .failing .taint e

/-- The slices in which a command is sent. -/
def slices (h : Hub) (q : Request) : List Bytes :=
  (Transfer.write h.pool.capacity [] q.command).slices

theorem flatten_slices (h : Hub) (q : Request) : (h.slices q).flatten = q.command.encode :=
  Transfer.write_flatten _ _ _

/-- The hub after a command was answered, or failed. -/
def concluded (h : Hub) : Except Error Reply → Hub
  | .ok _ => h
  | .error e => (h.tainted e.message).closePool

/-- The hub after the outcome of one caller's command more. -/
def told (h : Hub) (o : Except Error Reply) : Hub :=
  { h.concluded o with completions := h.completions ++ [(h.callers.length, o)] }

/-- The hub between the stages of a failure. -/
def failed (h : Hub) (reason : String) : FailureStage → Hub
  | .taint => h
  | .closePool => h.tainted reason
  | .drain | .conclude => (h.tainted reason).closePool

/-- Where the caller is at a stage. -/
def Stage.phase : Stage → CallerPhase
  | .entering => .entering
  | .linking => .linking
  | .claiming => .claiming
  | .permitted => .permitted
  | .holding => .holding []
  | .entered => .entered []
  | _ => .waiting

/-- Where the drive is at a stage, once there is one. -/
def drive? (h : Hub) (q : Request) : Stage → Option DrivePhase
  | .starting => some (.starting [])
  | .wantsWriter => some (.wantsWriter [])
  | .choosing => some (.choosing [])
  | .writing count => some (.writing ((h.slices q).drop count))
  | .shelving => some (.shelving .read)
  | .returning => some (.returning .read)
  | .wantsReader => some .wantsReader
  | .matching => some .matching
  | .reading => some (.reading (h.ticket q))
  | .failing stage e => some (.failing stage e.message (some (h.ticket q, e)))
  | .answered _ => some .done
  | _ => none

/-- What caller and drive have made of the hub at a stage. -/
def made (h : Hub) (q : Request) : Stage → Hub
  | .entering | .linking | .claiming => h
  | .permitted => { h with pool := h.pool.lendPermit }
  | .holding => { h with pool := h.pool.lendBuffer }
  | .entered | .starting | .wantsWriter =>
    { h with pool := h.pool.lendBuffer, unwritten := [h.ticket q] }
  | .choosing =>
    { h with
      pool := h.pool.lendBuffer
      unwritten := [h.ticket q]
      writer := some h.drives.length }
  | .writing count =>
    { h with
      pool := h.pool.lendBuffer
      unwritten := []
      unanswered := [h.ticket q]
      writer := some h.drives.length }.wired ((h.slices q).take count).flatten
  | .shelving =>
    { h with
      pool := h.pool.lendBuffer
      unwritten := []
      unanswered := [h.ticket q]
      writer := none }.wired q.command.encode
  | .returning =>
    { h with
      pool := h.pool.lendPermit
      unwritten := []
      unanswered := [h.ticket q]
      writer := none }.wired q.command.encode
  | .wantsReader =>
    { h with
      unwritten := []
      unanswered := [h.ticket q]
      writer := none }.wired q.command.encode
  | .matching =>
    { h with
      unwritten := []
      unanswered := [h.ticket q]
      writer := none
      reader := some h.drives.length }.wired q.command.encode
  | .reading =>
    { h with
      unwritten := []
      unanswered := []
      writer := none
      reader := some h.drives.length }.wired q.command.encode
  | .failing stage e => { h.failed e.message stage with reader := some h.drives.length }
  | .answered o => h.told o

/-- A hub that serves one call more. -/
def place (h : Hub) (q : Request) (s : Stage) : Hub :=
  (h.made q s).joined ⟨.call q, s.phase⟩ (h.drive? q s)

/-- The stage after a stage, where no frame is looked for and the call does not end. -/
def onward (h : Hub) (q : Request) : Stage → Option Stage
  | .entering => some .linking
  | .linking => some .claiming
  | .claiming => some .permitted
  | .permitted => some .holding
  | .holding => some .entered
  | .entered => some .starting
  | .starting => some .wantsWriter
  | .wantsWriter => some .choosing
  | .choosing => some (.writing 0)
  | .writing count =>
    if count < (h.slices q).length then some (.writing (count + 1)) else some .shelving
  | .shelving => some .returning
  | .returning => some .wantsReader
  | .wantsReader => some .matching
  | .matching => some .reading
  | .reading => none
  | .failing .taint e => some (.failing .closePool e)
  | .failing .closePool e => some (.failing .drain e)
  | .failing .drain e => some (.failing .conclude e)
  | .failing .conclude e => some (.answered (.error e))
  | .answered _ => none

/-- A hub that nobody uses and whose stream is up. -/
structure Rests (h : Hub) : Prop extends Quiet h where
  link : h.link = .up
  unwritten : h.unwritten = []
  unanswered : h.unanswered = []
  writer : h.writer = none
  reader : h.reader = none
  stream : ∃ s, h.stream = some s ∧ s.Sendable

/-- A hub that nobody uses and anybody may. -/
structure Serves (h : Hub) : Prop extends Rests h where
  taint : h.taint = none
  pool : h.pool.Full

theorem refusal_of_shareable {command : Command} (hq : command.isShareable h.pool.capacity) :
    h.refusal? command = none := by
  simp only [Command.isShareable, Command.isBracket, Bool.and_eq_true, Bool.not_eq_true',
    decide_eq_true_eq] at hq
  simp only [refusal?, hq.1.1, hq.1.2, Nat.not_lt.mpr hq.2, Bool.false_eq_true, if_false]

variable {s s' : Stage}

/-- What a call makes of the hub before its end is nothing to those who have come to theirs. -/
theorem Quiet.made (hq : h.Quiet) (hlate : ∀ o, s ≠ .answered o) : (h.made q s).Quiet := by
  cases s with
  | failing stage e => cases stage <;> exact { hq with }
  | answered o => exact absurd rfl (hlate o)
  | _ => exact { hq with }

theorem released_told (hr : h.reader = none) (o : Except Error Reply) :
    { h.told o with reader := none } = h.told o := by
  have hreader : (h.told o).reader = none := by
    cases o <;> exact hr
  rw [← hreader]

/-- While slices are left they are sent, and then the drive lets go of the writer. -/
theorem Serves.leads_writing {count : Nat} (hs : h.Serves)
    (honward : h.onward q (.writing count) = some s') :
    (h.place q (.writing count)).Leads (h.place q s') := by
  have hmade : (h.made q (.writing count)).Quiet := hs.made (by simp)
  simp only [onward] at honward
  split at honward
  · rename_i hlt
    cases honward
    obtain ⟨s, hstream, hsend⟩ := hs.stream
    have htake : ((h.slices q).take (count + 1)).flatten =
        ((h.slices q).take count).flatten ++ (h.slices q)[count] := by
      rw [List.take_succ_eq_append_getElem hlt, List.flatten_append, List.flatten_singleton]
    simp only [place, Hub.made, drive?, List.drop_eq_getElem_cons hlt, htake, ← wired_wired]
    refine hmade.sends (s := s.sending ((h.slices q).take count).flatten) ?_
      ⟨hsend.shut, hsend.broken⟩
    simp only [wired, hstream, Option.map_some]
  · rename_i hge
    cases honward
    simp only [place, Hub.made, drive?, List.take_of_length_le (Nat.le_of_not_lt hge),
      List.drop_of_length_le (Nat.le_of_not_lt hge), flatten_slices] at hmade ⊢
    exact hmade.hasWritten

/-- At each stage there is one way on. -/
theorem Serves.leads (hs : h.Serves) (hq : q.command.isShareable h.pool.capacity)
    (honward : h.onward q s = some s') : (h.place q s).Leads (h.place q s') := by
  have hmade : (h.made q s).Quiet := hs.made (by rintro o rfl; cases honward)
  cases s with
  | entering =>
    cases honward
    exact hmade.enters hs.taint (refusal_of_shareable hq)
  | linking =>
    cases honward
    exact hmade.links hs.taint hs.link
  | claiming =>
    cases honward
    exact hmade.claims hs.pool
  | permitted =>
    cases honward
    exact hmade.takesBuffer h.pool.takeBuffer_lendPermit
  | holding =>
    cases honward
    exact hmade.queues hs.unwritten
  | entered =>
    cases honward
    exact hmade.startsDrive
  | starting =>
    cases honward
    exact hmade.begins hs.taint hs.link
  | wantsWriter =>
    cases honward
    exact hmade.locksWriter hs.writer
  | choosing =>
    cases honward
    have hplace : h.place q (.writing 0) = driven { h with
        pool := h.pool.lendBuffer
        unwritten := []
        unanswered := [h.ticket q]
        writer := some h.drives.length } q (.writing (h.slices q)) := by
      simp only [place, made, drive?, List.take_zero, List.flatten_nil, wired_nil, List.drop_zero]
      rfl
    rw [hplace]
    exact hmade.takes rfl hs.unanswered
  | writing count => exact hs.leads_writing honward
  | shelving =>
    cases honward
    exact hmade.shelves hs.pool.putBuffer_eq
  | returning =>
    cases honward
    exact hmade.returns hs.pool.giveBack_eq
  | wantsReader =>
    cases honward
    exact hmade.locksReader hs.reader
  | «matching» =>
    cases honward
    exact hmade.fetches rfl
  | reading => cases honward
  | failing stage e =>
    cases stage with
    | taint =>
      cases honward
      exact hmade.taints
    | closePool =>
      cases honward
      exact hmade.closesPool
    | drain =>
      cases honward
      exact hmade.drains hs.unwritten hs.unanswered
    | conclude =>
      cases honward
      show Leads _ ((h.told (.error e)).driven q .done)
      rw [← released_told hs.reader]
      exact hmade.concludes
  | answered o => cases honward

/-- The hub after one call more. -/
def served (h : Hub) (q : Request) (o : Except Error Reply) : Hub :=
  (h.told o).joined ⟨.call q, .finished (o.map some)⟩ (some .done)

/-- A caller finds the outcome of its command, and the call is over. -/
theorem Quiet.wakes (hq : h.Quiet) (o : Except Error Reply) :
    (h.place q (.answered o)).Leads (h.served q o) := by
  have htold : (h.told o).completion? h.callers.length = some o := by
    show ((h.completions ++ [(h.callers.length, o)]).find? _).map _ = _
    rw [List.find?_append, hq.find_eq_none]
    simp
  have hstill : (h.told o).Still := by
    cases o <;> exact ⟨hq.callers, hq.drives, hq.closers⟩
  have hlength : (h.told o).callers.length = h.callers.length := by
    cases o <;> rfl
  show Leads ((h.told o).joined ⟨.call q, .waiting⟩ (some .done)) _
  refine hstill.leads_of_caller (.inr rfl) CallerPhase.noConfusion ?_
  rw [hlength]
  have hdone : ((h.told o).joined ⟨.call q, .waiting⟩ (some .done)).completion? h.callers.length =
    some o := htold
  simp only [advanceCaller, hdone]
  rw [← hlength]
  exact congrArg some (setCaller_joined _)

/-- On a tainted hub a call is over at once. -/
theorem Quiet.turnsAway {reason : String} (hq : h.Quiet) (ht : h.taint = some reason) :
    (h.place q .entering).Leads (h.arriving q (.finished (.error (.tainted reason)))) := by
  show (h.arriving q .entering).Leads _
  refine hq.arrives CallerPhase.noConfusion rfl ?_
  have ht' : (h.arriving q .entering).taint = some reason := ht
  simp only [advanceCaller, ht']

theorem Rests.cleared (hr : h.Rests) (reader : Option Nat) :
    { h with unwritten := [], unanswered := [], writer := none, reader } = { h with reader } := by
  have hunwritten := hr.unwritten
  have hunanswered := hr.unanswered
  have hwriter := hr.writer
  cases h
  simp_all

/-- After a command was sent it is for the peer to decide how the call goes on. -/
theorem Serves.looks (hs : h.Serves) {st : Stream} {intake : Intake} {inlet : Inlet} {st' : Stream}
    (hst : h.stream = some st)
    (hnext : h.inlet.next (st.sending q.command.encode) = (intake, inlet, st')) :
    match intake.outcome? h.settings.readTimeout with
    | some o =>
      (h.place q .reading).Leads (place { h with inlet, stream := some st' } q (.found o))
    | none => (h.place q .reading).Settled := by
  have hmade : (h.made q .reading).Quiet := hs.made (by simp)
  have hlooks := hmade.looks_of_reading (.call q) (h.ticket q)
  have hintake : (h.place q .reading).intake =
      (intake, { h.place q .reading with inlet, stream := some st' }) := by
    have hstream : (h.place q .reading).stream = some (st.sending q.command.encode) := by
      show h.stream.map _ = _
      rw [hst]
      rfl
    have hinlet : (h.place q .reading).inlet.next (st.sending q.command.encode) =
      (intake, inlet, st') := hnext
    simp only [Hub.intake, hstream, hinlet]
  have hfound : { h.place q .reading with inlet, stream := some st' } =
      driven { h with inlet, stream := some st', reader := some h.drives.length } q
        (.reading (h.ticket q)) := by
    have hcleared := hs.cleared (some h.drives.length)
    exact congrArg (fun b : Hub =>
      driven { b with inlet, stream := some st' } q (.reading (h.ticket q))) hcleared
  rw [hfound] at hintake
  cases ho : intake.outcome? h.settings.readTimeout with
  | none => exact hlooks.settled hintake ho
  | some o =>
    have hleads := hlooks.leads hintake ho
    cases o with
    | ok r =>
      have hreader : { h with inlet, stream := some st' }.reader = none := hs.reader
      show Leads _ ((told { h with inlet, stream := some st' } (.ok r)).driven q .done)
      rw [← released_told hreader, ← setDrive_driven (p := .reading (h.ticket q))]
      exact hleads
    | error e =>
      show Leads _ (driven { h with inlet, stream := some st', reader := some h.drives.length } q
        (.failing .taint e.message (some (h.ticket q, e))))
      rw [← setDrive_driven (p := .reading (h.ticket q))]
      exact hleads

/-- How the command ended, once that is known. -/
def Stage.outcome? : Stage → Option (Except Error Reply)
  | .failing _ e => some (.error e)
  | .answered o => some o
  | _ => none

theorem outcome?_found (o : Except Error Reply) : (Stage.found o).outcome? = some o := by
  cases o <;> rfl

theorem outcome?_onward (honward : h.onward q s = some s') : s'.outcome? = s.outcome? := by
  cases s with
  | writing count =>
    simp only [onward] at honward
    split at honward <;> cases honward <;> rfl
  | failing stage e => cases stage <;> cases honward <;> rfl
  | reading | answered o => cases honward
  | _ => cases honward; rfl

theorem onward_eq_none (honward : h.onward q s = none) : s = .reading ∨ ∃ o, s = .answered o := by
  cases s with
  | reading => exact .inl rfl
  | answered o => exact .inr ⟨o, rfl⟩
  | writing count =>
    simp only [onward] at honward
    split at honward <;> cases honward
  | failing stage e => cases stage <;> cases honward
  | _ => cases honward

theorem reading_of_onward (honward : h.onward q s = none) (hearly : s.outcome? = none) :
    s = .reading := by
  rcases onward_eq_none honward with rfl | ⟨o, rfl⟩
  · rfl
  · cases hearly

theorem answered_of_onward {o : Except Error Reply} (honward : h.onward q s = none)
    (hlate : s.outcome? = some o) : s = .answered o := by
  rcases onward_eq_none honward with rfl | ⟨o, rfl⟩
  · cases hlate
  · cases hlate
    rfl

/-- At no stage has the caller come to its end. -/
theorem exists_joined_of_place (h : Hub) (q : Request) (s : Stage) :
    ∃ b phase p?, h.place q s = Hub.joined b ⟨.call q, phase⟩ p? ∧ phase.isFinished = false := by
  cases s <;> exact ⟨_, _, _, rfl, rfl⟩

/-! ## All the way -/

/-- One thing after the other leads from a hub to another. -/
inductive LeadsTo : Hub → Hub → Prop
  | refl (h : Hub) : LeadsTo h h
  | head {h h' h'' : Hub} : h.Leads h' → LeadsTo h' h'' → LeadsTo h h''

theorem LeadsTo.trans {h h' h'' : Hub} (hfirst : LeadsTo h h') (hrest : LeadsTo h' h'') :
    LeadsTo h h'' := by
  induction hfirst with
  | refl h => exact hrest
  | head hleads _ ih => exact .head hleads (ih hrest)

/-- How many stages come before the call ends or a frame is looked for. -/
def Stage.left (h : Hub) (q : Request) : Stage → Nat
  | .entering => (h.slices q).length + 14
  | .linking => (h.slices q).length + 13
  | .claiming => (h.slices q).length + 12
  | .permitted => (h.slices q).length + 11
  | .holding => (h.slices q).length + 10
  | .entered => (h.slices q).length + 9
  | .starting => (h.slices q).length + 8
  | .wantsWriter => (h.slices q).length + 7
  | .choosing => (h.slices q).length + 6
  | .writing count => (h.slices q).length - count + 5
  | .shelving | .failing .taint _ => 4
  | .returning | .failing .closePool _ => 3
  | .wantsReader | .failing .drain _ => 2
  | .matching | .failing .conclude _ => 1
  | .reading | .answered _ => 0

theorem left_onward (honward : h.onward q s = some s') : s'.left h q < s.left h q := by
  cases s with
  | writing count =>
    simp only [onward] at honward
    split at honward <;> cases honward <;> simp only [Stage.left] <;> omega
  | failing stage e => cases stage <;> cases honward <;> exact Nat.lt_succ_self _
  | reading | answered o => cases honward
  | _ => cases honward; exact Nat.lt_succ_self _

/-- Nothing stops a call before it ends or a frame is looked for. -/
theorem Serves.goes (hs : h.Serves) (hq : q.command.isShareable h.pool.capacity) (s : Stage) :
    ∃ s', LeadsTo (h.place q s) (h.place q s') ∧ h.onward q s' = none ∧
      s'.outcome? = s.outcome? := by
  induction hleft : s.left h q using Nat.strongRecOn generalizing s with
  | ind left ih =>
    cases honward : h.onward q s with
    | none => exact ⟨s, .refl _, honward, rfl⟩
    | some next =>
      obtain ⟨s', hleads, hlast, hsame⟩ := ih _ (hleft ▸ left_onward honward) next rfl
      exact ⟨s', .head (hs.leads hq honward) hleads, hlast, hsame.trans (outcome?_onward honward)⟩

theorem Serves.asks (hs : h.Serves) (hq : q.command.isShareable h.pool.capacity)
    (hearly : s.outcome? = none) : LeadsTo (h.place q s) (h.place q .reading) := by
  obtain ⟨s', hleads, hlast, hsame⟩ := hs.goes hq s
  rwa [reading_of_onward hlast (hsame.trans hearly)] at hleads

theorem Serves.finds {o : Except Error Reply} (hs : h.Serves)
    (hq : q.command.isShareable h.pool.capacity) (hlate : s.outcome? = some o) :
    LeadsTo (h.place q s) (h.place q (.answered o)) := by
  obtain ⟨s', hleads, hlast, hsame⟩ := hs.goes hq s
  rwa [answered_of_onward hlast (hsame.trans hlate)] at hleads

/-! ## The peer -/

theorem onPeer_eq {s : Stream} (hs : h.stream = some s) (f : Stream → Stream) :
    h.onPeer f = { h with stream := some (f s) } := by
  rw [onPeer, hs]

theorem exists_onPeer (h : Hub) (f : Stream → Stream) :
    ∃ stream network, h.onPeer f = { h with stream, network } := by
  unfold onPeer
  split
  · exact ⟨_, _, rfl⟩
  · exact ⟨_, _, rfl⟩
  · exact ⟨_, _, rfl⟩

/-- What the peer does leaves a call at its stage. -/
theorem place_onPeer {st : Stream} (hst : h.stream = some st) {f : Stream → Stream}
    (hf : ∀ (st : Stream) bytes, f (st.sending bytes) = (f st).sending bytes) (q : Request)
    (s : Stage) : (h.place q s).onPeer f = (h.onPeer f).place q s := by
  have hwired (bytes : Bytes) :
      h.stream.map (fun s : Stream => s.sending bytes) = some (st.sending bytes) := by
    rw [hst]
    rfl
  have hkeeps (b : Hub) (hb : b.stream = some st) :
      b.onPeer f = { b with stream := some (f st) } := onPeer_eq hb f
  rw [onPeer_eq hst f]
  cases s with
  | writing count =>
    refine (onPeer_eq (hwired _) f).trans ?_
    rw [hf]
    rfl
  | shelving | returning | wantsReader | «matching» | reading =>
    refine (onPeer_eq (hwired _) f).trans ?_
    rw [hf]
    rfl
  | failing stage e =>
    cases stage with
    | taint | closePool | drain | conclude => exact hkeeps _ hst
  | answered o =>
    cases o with
    | ok r | error e => exact hkeeps _ hst
  | _ => exact hkeeps _ hst

end Hub

end RespLink
