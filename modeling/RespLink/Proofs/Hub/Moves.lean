import RespLink.Proofs.Hub.Callers
import RespLink.Proofs.Hub.Drives

/-!
# Moves — what can happen to a hub, tainted or not

`CallerStep` says what a caller can do. `DriveStep` and `CloserStep` say the same of those who
write, read and close, each step with its guard and with all that it changes, and `Moved` puts
them together with what the world does: somebody enters, goes away or waits too long, and the peer
moves. An invariant, of clean hubs or of failed ones, is a statement about these.
-/

namespace RespLink

/-- Where a drive goes that has given its permit back. -/
def Afterwards.phase : Afterwards → DrivePhase
  | .stop => .done
  | .read => .wantsReader
  | .fail reason => .failing .taint reason none

namespace Hub

variable {h h' : Hub} {i j k : Nat} {c : Caller} {p : DrivePhase}

/-! ## Drives -/

/-- What a step of drive `j` does. -/
inductive DriveStep (h : Hub) (j : Nat) : DrivePhase → Hub → Prop
  | refused {buffer : Bytes} {reason : String} : h.taint = some reason →
    DriveStep h j (.starting buffer)
      (h.setDrive j (.shelving (.fail (Error.tainted reason).message)))
  | begins {buffer : Bytes} : h.taint = none → h.link = .up →
    DriveStep h j (.starting buffer) (h.setDrive j (.wantsWriter buffer))
  | locksWriter {buffer : Bytes} : h.writer = none →
    DriveStep h j (.wantsWriter buffer)
      (({ h with writer := some j }).setDrive j (.choosing buffer))
  | findsNothing {buffer : Bytes} : h.unwritten = [] →
    DriveStep h j (.choosing buffer) (h.releaseWriter j (.shelving .stop))
  | takes {buffer : Bytes} {t : Ticket} {rest : List Ticket} : h.unwritten = t :: rest →
    DriveStep h j (.choosing buffer)
      (({ h with unwritten := rest, unanswered := h.unanswered ++ [t] }).setDrive j
        (.writing (Transfer.write h.pool.capacity buffer t.command).slices))
  | hasWritten : DriveStep h j (.writing []) (h.releaseWriter j (.shelving .read))
  | sends {slice : Bytes} {rest : List Bytes} {s s' : Stream} :
    h.stream = some s → s.send slice = .ok s' →
    DriveStep h j (.writing (slice :: rest))
      (({ h with stream := some s' }).setDrive j (.writing rest))
  | sticks {slice : Bytes} {rest : List Bytes} (reason : String) :
    (∀ s, h.stream = some s → ∃ fault, s.send slice = .error fault) →
    DriveStep h j (.writing (slice :: rest)) (h.releaseWriter j (.shelving (.fail reason)))
  | shelves {next : Afterwards} :
    DriveStep h j (.shelving next)
      (({ h with pool := h.pool.putBuffer }).setDrive j (.returning next))
  | returns {next : Afterwards} :
    DriveStep h j (.returning next)
      (({ h with pool := h.pool.giveBack }).setDrive j next.phase)
  | locksReader : h.reader = none →
    DriveStep h j .wantsReader (({ h with reader := some j }).setDrive j .matching)
  | missesAll : h.unanswered = [] → DriveStep h j .matching (h.releaseReader j)
  | fetches {t : Ticket} {rest : List Ticket} : h.unanswered = t :: rest →
    DriveStep h j .matching (({ h with unanswered := rest }).setDrive j (.reading t))
  | completes {t : Ticket} {r : Reply} (stream : Option Stream) (inlet : Inlet) :
    h.intake = (.frame r, { h with stream, inlet }) →
    stream.map Stream.outgoing = h.stream.map Stream.outgoing →
    DriveStep h j (.reading t) ((({ h with stream, inlet }).complete t (.ok r)).releaseReader j)
  | fails {t : Ticket} {intake : Intake} (e : Error) (stream : Option Stream) (inlet : Inlet) :
    h.intake = (intake, { h with stream, inlet }) → (∀ r, intake ≠ .frame r) →
    stream.map Stream.outgoing = h.stream.map Stream.outgoing →
    DriveStep h j (.reading t) (({ h with stream, inlet }).readFailed j t e)
  | taints {reason : String} {owed : Option (Ticket × Error)} :
    DriveStep h j (.failing .taint reason owed)
      ((h.tainted reason).setDrive j (.failing .closePool reason owed))
  | closesPool {reason : String} {owed : Option (Ticket × Error)} :
    DriveStep h j (.failing .closePool reason owed)
      (h.closePool.setDrive j (.failing .drain reason owed))
  | drains {reason : String} {owed : Option (Ticket × Error)} :
    DriveStep h j (.failing .drain reason owed)
      ((h.drain reason).setDrive j (.failing .conclude reason owed))
  | settles {reason : String} {t : Ticket} {e : Error} :
    DriveStep h j (.failing .conclude reason (some (t, e)))
      ((h.complete t (.error e)).releaseReader j)
  | ends {reason : String} :
    DriveStep h j (.failing .conclude reason none) (h.setDrive j .done)

theorem send_of_stream {s : Stream} {bytes : Bytes} (hs : h.stream = some s) :
    h.send bytes = (s.send bytes).map fun s' => { h with stream := some s' } := by
  simp only [send, hs]

theorem driveStep_sending {slice : Bytes} {rest : List Bytes}
    (hstep : h.advanceDrive j (.writing (slice :: rest)) = some h') :
    DriveStep h j (.writing (slice :: rest)) h' := by
  simp only [advanceDrive] at hstep
  cases hs : h.stream with
  | none =>
    simp only [send, hs] at hstep
    cases hstep
    exact .sticks _ fun s hsome => absurd (hs.symm.trans hsome) (by simp)
  | some s =>
    rw [send_of_stream hs] at hstep
    cases hsend : s.send slice with
    | ok s' =>
      rw [hsend] at hstep
      cases hstep
      exact .sends hs hsend
    | error fault =>
      rw [hsend] at hstep
      cases hstep
      refine .sticks _ fun s' hs' => ⟨fault, ?_⟩
      cases hs.symm.trans hs'
      exact hsend

theorem driveStep_reading {t : Ticket} (hstep : h.advanceDrive j (.reading t) = some h') :
    DriveStep h j (.reading t) h' := by
  simp only [advanceDrive] at hstep
  split at hstep
  · rename_i r h₁ hi
    cases hstep
    obtain ⟨stream, inlet, rfl, hsame⟩ := exists_of_intake hi
    exact .completes stream inlet hi hsame
  · rename_i e h₁ hi
    cases hstep
    obtain ⟨stream, inlet, rfl, hsame⟩ := exists_of_intake hi
    exact .fails e stream inlet hi (by simp) hsame
  · rename_i h₁ hi
    cases hstep
    obtain ⟨stream, inlet, rfl, hsame⟩ := exists_of_intake hi
    exact .fails .connectionClosed stream inlet hi (by simp) hsame
  · cases hstep

theorem driveStep_of_advanceDrive (hstep : h.advanceDrive j p = some h') : DriveStep h j p h' := by
  cases p with
  | starting buffer =>
    simp only [advanceDrive] at hstep
    split at hstep
    · rename_i reason ht
      cases hstep
      exact .refused ht
    · rename_i ht
      split at hstep
      · rename_i hup
        cases hstep
        exact .begins ht hup
      · cases hstep
  | wantsWriter buffer =>
    simp only [advanceDrive] at hstep
    split at hstep
    · rename_i hfree
      cases hstep
      exact .locksWriter hfree
    · cases hstep
  | choosing buffer =>
    simp only [advanceDrive] at hstep
    split at hstep
    · rename_i hnil
      cases hstep
      exact .findsNothing hnil
    · rename_i t rest ht
      cases hstep
      exact .takes ht
  | writing slices =>
    cases slices with
    | nil =>
      cases hstep
      exact .hasWritten
    | cons slice rest => exact driveStep_sending hstep
  | shelving next =>
    cases hstep
    exact .shelves
  | returning next =>
    cases next <;> cases hstep <;> exact .returns
  | wantsReader =>
    simp only [advanceDrive] at hstep
    split at hstep
    · rename_i hfree
      cases hstep
      exact .locksReader hfree
    · cases hstep
  | «matching» =>
    simp only [advanceDrive] at hstep
    split at hstep
    · rename_i hnil
      cases hstep
      exact .missesAll hnil
    · rename_i t rest ht
      cases hstep
      exact .fetches ht
  | reading t => exact driveStep_reading hstep
  | failing stage reason owed =>
    cases hstep
    cases stage with
    | taint => exact .taints
    | closePool => exact .closesPool
    | drain => exact .drains
    | conclude =>
      cases owed with
      | none => exact .ends
      | some owed => exact .settles
  | done => cases hstep

/-- Drives leave callers and closers alone, and do not open the stream. -/
theorem driveStep_leaves (hstep : DriveStep h j p h') :
    h'.callers = h.callers ∧ h'.closers = h.closers ∧ h'.link = h.link ∧
    h'.attempts = h.attempts ∧ (h.state = .disconnected → h'.state = .disconnected) := by
  cases hstep with
  | taints => exact ⟨rfl, rfl, rfl, rfl, fun _ => rfl⟩
  | _ => exact ⟨rfl, rfl, rfl, rfl, id⟩

/-! ## Closers -/

/-- What a step of closer `k` does. -/
inductive CloserStep (h : Hub) (k : Nat) : CloserPhase → Hub → Prop
  | taints : CloserStep h k (.failing .taint)
      ((h.tainted closedByClient).setCloser k (.failing .closePool))
  | closesPool : CloserStep h k (.failing .closePool) (h.closePool.setCloser k (.failing .drain))
  | drains : CloserStep h k (.failing .drain)
      ((h.drain closedByClient).setCloser k (.failing .conclude))
  | shutsDown : h.link = .up → h.writer = none →
    CloserStep h k (.failing .conclude)
      (({ h with stream := h.stream.map Stream.shutDown }).setCloser k .done)
  | ends : h.link ≠ .up → CloserStep h k (.failing .conclude) (h.setCloser k .done)

theorem closerStep_of_advanceCloser {phase : CloserPhase}
    (hstep : h.advanceCloser k phase = some h') : CloserStep h k phase h' := by
  cases phase with
  | failing stage =>
    cases stage with
    | taint =>
      cases hstep
      exact .taints
    | closePool =>
      cases hstep
      exact .closesPool
    | drain =>
      cases hstep
      exact .drains
    | conclude =>
      simp only [advanceCloser] at hstep
      split at hstep
      · rename_i hup
        split at hstep
        · rename_i hfree
          cases hstep
          exact .shutsDown hup hfree
        · cases hstep
      · rename_i hup
        cases hstep
        exact .ends hup
  | done => cases hstep

theorem closerStep_leaves {phase : CloserPhase} (hstep : CloserStep h k phase h') :
    h'.callers = h.callers ∧ h'.drives = h.drives ∧ h'.link = h.link ∧
    h'.attempts = h.attempts ∧ (h.state = .disconnected → h'.state = .disconnected) := by
  cases hstep with
  | taints => exact ⟨rfl, rfl, rfl, rfl, fun _ => rfl⟩
  | _ => exact ⟨rfl, rfl, rfl, rfl, id⟩

/-! ## Everybody -/

/-- Whether a move is the peer's. -/
def Move.isPeers : Move → Bool
  | .receive _ | .finish | .sever => true
  | _ => false

/-- What a move does. -/
inductive Moved (h : Hub) : Move → Hub → Prop
  | enters (errand : Errand) :
    Moved h (.enter errand) { h with callers := h.callers ++ [⟨errand, .entering⟩] }
  | closes : Moved h .close { h with closers := h.closers ++ [.failing .taint] }
  | caller {h' : Hub} {i : Nat} {c : Caller} : h.callers[i]? = some c → CallerStep h i c h' →
    Moved h (.step (.caller i)) h'
  | closer {h' : Hub} {k : Nat} {phase : CloserPhase} : h.closers[k]? = some phase →
    CloserStep h k phase h' → Moved h (.step (.closer k)) h'
  | drive {h' : Hub} {j : Nat} {p : DrivePhase} : h.drives[j]? = some p → DriveStep h j p h' →
    Moved h (.step (.drive j)) h'
  | callerExpires {i : Nat} {c : Caller} (e : Error) (stream : Option Stream) (inlet : Inlet) :
    h.callers[i]? = some c → c.phase.opens →
    Moved h (.expire (.caller i)) (({ h with stream, inlet }).openFailed i e)
  | driveExpires {h' : Hub} {j : Nat} {t : Ticket} : h.drives[j]? = some (.reading t) →
    DriveStep h j (.reading t) h' → (∀ r, h.intake.1 ≠ .frame r) → Moved h (.expire (.drive j)) h'
  | leaves {i : Nat} {c : Caller} (pool : Pool) : h.callers[i]? = some c → c.phase.opens = false →
    c.phase.isEntered = false → pool.closed = h.pool.closed →
    Moved h (.leave i) (({ h with pool }).setCaller i .gone)
  | hangsUp {i : Nat} {c : Caller} : h.callers[i]? = some c → c.phase.opens →
    Moved h (.leave i) (({ h with link := .vacant, stream := none }).setCaller i .gone)
  | peer {m : Move} (stream : Option Stream) (network : Network) :
    stream.map Stream.outgoing = h.stream.map Stream.outgoing → m.isPeers →
    Moved h m { h with stream, network }

theorem moved_of_expire {task : Task} (hstep : h.expire task = some h') :
    Moved h (.expire task) h' := by
  unfold expire at hstep
  split at hstep
  · rename_i span h₁ _ hi
    obtain ⟨stream, inlet, rfl, hsame⟩ := exists_of_intake hi
    cases task with
    | caller i =>
      dsimp only at hstep
      split at hstep
      · rename_i errand hc
        cases hstep
        exact .callerExpires _ stream inlet hc rfl
      · cases hstep
    | drive j =>
      dsimp only at hstep
      split at hstep
      · rename_i t hj
        cases hstep
        exact .driveExpires hj (.fails _ stream inlet hi (by simp) hsame) (by simp [hi])
      · cases hstep
    | closer k => cases hstep
  · cases hstep

theorem moved_of_leave (hstep : h.leave i = some h') : Moved h (.leave i) h' := by
  unfold leave at hstep
  split at hstep
  · cases hstep
  · rename_i c hc
    obtain ⟨errand, phase⟩ := c
    cases phase with
    | dialing | authenticating =>
      cases hstep
      exact .hangsUp hc rfl
    | inLine =>
      cases hstep
      exact .leaves _ hc rfl rfl (h.pool.closed_withdraw i)
    | holding buffer =>
      cases hstep
      exact .leaves _ hc rfl rfl h.pool.putBuffer.closed_giveBack
    | permitted | entered _ | finished _ | gone => cases hstep
    | _ =>
      cases hstep
      exact .leaves h.pool hc rfl rfl rfl

theorem moved_of_onPeer {m : Move} {f : Stream → Stream}
    (hf : ∀ s, (f s).outgoing = s.outgoing) (hpeer : m.isPeers) : Moved h m (h.onPeer f) := by
  unfold onPeer
  split
  · rename_i s hs
    refine .peer (some (f s)) h.network ?_ hpeer
    rw [hs, Option.map_some, Option.map_some, hf]
  · rename_i s hs hnet
    exact .peer h.stream (.accepts (f s)) rfl hpeer
  · exact .peer h.stream h.network rfl hpeer

theorem moved_of_step? {m : Move} (hstep : h.step? m = some h') : Moved h m h' := by
  cases m with
  | enter errand =>
    cases hstep
    exact .enters errand
  | close =>
    cases hstep
    exact .closes
  | step task =>
    cases task with
    | caller i =>
      simp only [step?, advance] at hstep
      split at hstep
      · rename_i c hc
        exact .caller hc (callerStep_of_advanceCaller hstep)
      · cases hstep
    | closer k =>
      simp only [step?, advance] at hstep
      split at hstep
      · rename_i phase hk
        exact .closer hk (closerStep_of_advanceCloser hstep)
      · cases hstep
    | drive j =>
      simp only [step?, advance] at hstep
      split at hstep
      · rename_i p hj
        exact .drive hj (driveStep_of_advanceDrive hstep)
      · cases hstep
  | expire task => exact moved_of_expire hstep
  | leave i => exact moved_of_leave hstep
  | receive bytes =>
    cases hstep
    exact moved_of_onPeer (fun _ => rfl) rfl
  | finish =>
    cases hstep
    exact moved_of_onPeer (fun _ => rfl) rfl
  | sever =>
    cases hstep
    exact moved_of_onPeer (fun _ => rfl) rfl

end Hub

end RespLink
