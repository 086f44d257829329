import RespLink.Proofs.Connection.Requests
import RespLink.Proofs.Hub.Aftermath
import RespLink.Proofs.Hub.Order
import RespLink.Proofs.Hub.Refusals

/-!
# Vetting — what a hub lets onto its stream

A hub looks at a command when its caller takes its first step, and at no other time. Everything that
is queued afterwards, taken by a drive and sent slice by slice has passed there. So if every
caller's command has a name, no request that subscribes is ever on a hub's stream (`Hub.Vetted`),
tainted or not, whichever stream that is: one that was given up and opened again begins empty.

With that the keyword of a command can be trusted wherever it decides, on a connection and on a hub
(`Command.keyword_agrees`). It takes the name, though: a command without one is not recognised by
its arguments, and passes (`Command.nameless_subscribes`).
-/

namespace RespLink

open Hub

/-- Whether a drive is on its way to write a command, or writes one. -/
def DrivePhase.isWriting : DrivePhase → Bool
  | .wantsWriter _ | .choosing _ | .writing _ => true
  | _ => false

theorem DrivePhase.unsent_of_not {p : DrivePhase} (h : p.isWriting = false) : p.unsent = [] := by
  cases p with
  | writing slices => cases h
  | _ => rfl

/-- A caller that has taken its first step has passed there, unless it has ended already. -/
def Caller.Vetted (c : Caller) : Prop :=
  ∀ q, c.errand = .call q → q.command.words ≠ [] ∧
    (c.phase = .entering ∨ c.phase.isPast ∨ q.command.subscribes = false)

theorem Caller.Vetted.onward {c : Caller} {phase : CallerPhase} (h : c.Vetted)
    (hphase : c.phase ≠ .entering) (hpast : c.phase.isPast → phase.isPast) :
    Caller.Vetted { c with phase } := by
  intro q hq
  obtain ⟨hnamed, hplace⟩ := h q hq
  exact ⟨hnamed, Or.inr ((hplace.resolve_left hphase).imp_left hpast)⟩

theorem Caller.Vetted.past {c : Caller} {phase : CallerPhase} (h : c.Vetted)
    (hpast : phase.isPast) : Caller.Vetted { c with phase } :=
  fun q hq => ⟨(h q hq).1, Or.inr (Or.inl hpast)⟩

namespace Hub

/-- What is on a stream, and what the holder of the writer has still to send, are requests of which
    none subscribes. -/
def Spoken (writer : Option Nat) (drives : List DrivePhase) (s : Stream) : Prop :=
  ∃ written : List Command, (∀ d ∈ written, d.subscribes = false) ∧
    World.Wired written [] writer drives s

/-- Nothing that subscribes is queued, is being written, or was sent. -/
structure Vetted (h : Hub) : Prop where
  callers : ∀ (i : Nat) (c : Caller), h.callers[i]? = some c → c.Vetted
  unwritten : ∀ t ∈ h.unwritten, t.command.subscribes = false
  linked : ∀ (j : Nat) (p : DrivePhase), h.drives[j]? = some p → p.isWriting → h.link = .up
  spoken : ∀ s, h.stream = some s → Spoken h.writer h.drives s
  fresh : ∀ s, h.network = .accepts s → s.sent = []

variable {h h' : Hub} {i j k : Nat} {c : Caller} {p p' : DrivePhase} {m : Move}
  {writer : Option Nat} {drives : List DrivePhase} {s : Stream}

theorem Spoken.only (hs : Spoken writer drives s) :
    Command.Only (fun d => d.subscribes = false) s.sent := by
  obtain ⟨written, hall, hwired⟩ := hs
  obtain ⟨rest, hrest, -⟩ := hwired.rest
  exact ⟨written, ⟨rest, hrest⟩, hall⟩

/-- A stream on which only `commands` were sent, while no drive has anything to send. -/
theorem Spoken.start {commands : List Command} (hcommands : ∀ d ∈ commands, d.subscribes = false)
    (hsent : s.sent = Command.encodeAll commands) (hunsent : unsent writer drives = []) :
    Spoken writer drives s := by
  refine ⟨commands, hcommands, List.nil_prefix, [], ?_, Or.inr (Or.inr hunsent.symm)⟩
  rw [List.append_nil, hsent]

theorem Spoken.same {writer' : Option Nat} {drives' : List DrivePhase} {s' : Stream}
    (hs : Spoken writer drives s) (hunsent : unsent writer' drives' = unsent writer drives)
    (hsent : s'.sent = s.sent) (hshut : s.shut → s'.shut) (hbroken : s.broken → s'.broken) :
    Spoken writer' drives' s' := by
  obtain ⟨written, hall, hwired⟩ := hs
  exact ⟨written, hall, hwired.same hunsent hsent hshut hbroken⟩

/-- A hub refuses every command that is a subscription change by its name. -/
theorem isSubscriptionChange_of_refusal? {command : Command} (h₁ : h.refusal? command = none) :
    command.isSubscriptionChange = false := by
  unfold refusal? at h₁
  split at h₁
  · cases h₁
  split at h₁
  · cases h₁
  · rename_i hchange
    exact Bool.eq_false_iff.mpr hchange

namespace Vetted

theorem start {settings : Settings} {network : Network}
    (hfresh : ∀ s, network = .accepts s → s.sent = []) : (Hub.start settings network).Vetted := by
  refine ⟨?_, ?_, ?_, ?_, hfresh⟩ <;> intros <;> contradiction

/-- As long as the stream is not up no drive has anything to send. -/
theorem unsent_nil (hv : h.Vetted) (hlink : h.link ≠ .up) : unsent h.writer h.drives = [] := by
  refine unsent_eq_nil fun k p hk => DrivePhase.unsent_of_not (Bool.eq_false_iff.mpr ?_)
  exact fun hp => hlink (hv.linked k p hk hp)

theorem relink {link : Link} (hv : h.Vetted) (hlink : h.link ≠ .up) : Vetted { h with link } :=
  { hv with linked := fun k p hk hp => absurd (hv.linked k p hk hp) hlink }

theorem restream {inlet : Inlet} (hv : h.Vetted) (hs : Spoken h.writer h.drives s) :
    Vetted { h with stream := some s, inlet } :=
  { hv with
    spoken := by
      intro s' hs'
      cases hs'
      exact hs }

/-! ## Callers -/

theorem setCaller {phase : CallerPhase} (hv : h.Vetted) (hc : h.callers[i]? = some c)
    (hphase : Caller.Vetted { c with phase }) : (h.setCaller i phase).Vetted :=
  { hv with
    callers := by
      intro k c' hk
      rcases getElem?_modify_cases hk with ⟨-, c₀, hc₀, rfl⟩ | ⟨-, hk⟩
      · cases hc.symm.trans hc₀
        exact hphase
      · exact hv.callers k c' hk }

theorem openFailed {e : Error} (hv : h.Vetted) (hc : h.callers[i]? = some c)
    (hlink : h.link ≠ .up) : (h.openFailed i e).Vetted := by
  have hfailed : Vetted { h.tainted e.message with link := .vacant } := { hv.relink hlink with }
  exact hfailed.setCaller hc ((hv.callers i c hc).past rfl)

theorem opened (hv : h.Vetted) (hc : h.callers[i]? = some c) (hopens : c.phase.opens)
    (hlink : h.link ≠ .up) : (h.opened i).Vetted := by
  have hup : Vetted { h with link := .up, state := .connected } := { hv.relink hlink with }
  refine hup.setCaller hc ((hv.callers i c hc).onward ?_ ?_)
  · intro hentering
    rw [hentering] at hopens
    cases hopens
  · intro hpast
    obtain ⟨errand, phase⟩ := c
    cases phase with
    | dialing | authenticating => cases hpast
    | _ => cases hopens

/-- The password is sent before any caller's command, and subscribes nothing. -/
theorem subscribes_auth (password : Bytes) :
    (Catalog.auth password).command.subscribes = false := by
  have hnamed : (Catalog.auth password).command.words ≠ [] := by
    show Text.words "AUTH" ≠ []
    decide +kernel
  have hchange : (Command.mk "AUTH" []).isSubscriptionChange = false := by decide +kernel
  rw [← Command.isSubscriptionChange_eq hnamed]
  exact hchange

theorem dialed {errand : Errand} (hv : h.Vetted) (hc : h.callers[i]? = some ⟨errand, .dialing⟩)
    (hlink : h.link ≠ .up) : (h.dialed i).Vetted := by
  have hunsent := hv.unsent_nil hlink
  unfold Hub.dialed
  split
  · exact hv.openFailed hc hlink
  · rename_i s hdial
    have hnet : h.network = .accepts s := by
      cases hnet : h.network with
      | accepts s' => rw [hnet] at hdial; cases hdial; rfl
      | refuses => rw [hnet] at hdial; cases hdial
      | unreachable => rw [hnet] at hdial; cases hdial
    have hfresh := hv.fresh s hnet
    have hempty : Vetted { h with
        stream := some s, inlet := Inlet.start h.settings.maxFrameSize } := by
      apply hv.restream
      exact .start (by simp) (hfresh.trans Command.encodeAll_nil.symm) hunsent
    dsimp only
    split
    · exact hempty.opened hc rfl hlink
    · rename_i password _
      simp only [send]
      cases hsend : s.send (Catalog.auth (Argument.ofText password)).command.encode with
      | error fault => exact hempty.openFailed hc hlink
      | ok s' =>
        obtain ⟨-, rfl⟩ := Stream.send_ok hsend
        have hgreeted : Vetted { h with
            stream := some { s with
              sent := s.sent ++ (Catalog.auth (Argument.ofText password)).command.encode }
            inlet := Inlet.start h.settings.maxFrameSize } := by
          have hplain : ∀ d ∈ [(Catalog.auth (Argument.ofText password)).command],
              d.subscribes = false := by simp [subscribes_auth]
          refine hv.restream (.start hplain ?_ hunsent)
          rw [Command.encodeAll_singleton, hfresh, List.nil_append]
        exact hgreeted.setCaller hc ((hv.callers i _ hc).onward (by simp) id)

/-- Looking for a frame leaves what was sent as it is. -/
theorem intake {found : Intake} (hv : h.Vetted) (hi : h.intake = (found, h')) :
    h'.Vetted ∧ h'.callers = h.callers ∧ h'.link = h.link := by
  rcases h.intake_cases with ⟨-, hnone⟩ | ⟨s, arrived, found', inlet, hs, hsome, -⟩
  · rw [hnone] at hi
    cases hi
    exact ⟨hv, rfl, rfl⟩
  · rw [hsome] at hi
    cases hi
    exact ⟨hv.restream ((hv.spoken s hs).same rfl rfl id id), rfl, rfl⟩

theorem authenticating {errand : Errand} (hv : h.Vetted)
    (hc : h.callers[i]? = some ⟨errand, .authenticating⟩) (hlink : h.link ≠ .up)
    (hstep : h.advanceCaller i ⟨errand, .authenticating⟩ = some h') : h'.Vetted := by
  have hlooked {found : Intake} {h₁ : Hub} (hi : h.intake = (found, h₁)) :
      h₁.Vetted ∧ h₁.callers[i]? = some ⟨errand, .authenticating⟩ ∧ h₁.link ≠ .up := by
    obtain ⟨hv₁, hcallers, hsame⟩ := hv.intake hi
    exact ⟨hv₁, hcallers ▸ hc, hsame ▸ hlink⟩
  simp only [advanceCaller] at hstep
  split at hstep
  · rename_i r h₁ hi
    cases hstep
    obtain ⟨hv₁, hc₁, hlink₁⟩ := hlooked hi
    unfold answered
    split
    · exact hv₁.opened hc₁ rfl hlink₁
    · exact hv₁.openFailed hc₁ hlink₁
  · rename_i e h₁ hi
    cases hstep
    obtain ⟨hv₁, hc₁, hlink₁⟩ := hlooked hi
    exact hv₁.openFailed hc₁ hlink₁
  · rename_i h₁ hi
    cases hstep
    obtain ⟨hv₁, hc₁, hlink₁⟩ := hlooked hi
    exact hv₁.openFailed hc₁ hlink₁
  · cases hstep

/-- In its first step a caller passes only if its command subscribes nothing. -/
theorem entrance {errand : Errand} (hv : h.Vetted) (hc : h.callers[i]? = some ⟨errand, .entering⟩)
    (hentrance : Entrance h i errand h') : h'.Vetted := by
  have hcaller := hv.callers i _ hc
  cases hentrance with
  | late => exact hv.setCaller hc (hcaller.past rfl)
  | refused => exact hv.setCaller hc (hcaller.past rfl)
  | admitted ht hnone =>
    refine hv.setCaller hc fun q hq => ?_
    obtain ⟨hnamed, -⟩ := hcaller q hq
    refine ⟨hnamed, Or.inr (Or.inr ?_)⟩
    rw [← Command.isSubscriptionChange_eq hnamed]
    exact isSubscriptionChange_of_refusal? (hnone q hq)

theorem caller (hv : h.Vetted) (hc : h.callers[i]? = some c) (hphase : c.phase ≠ .entering)
    (hopens : c.phase.opens = false) (hstep : CallerStep h i c h') : h'.Vetted := by
  have hcaller := hv.callers i c hc
  cases hstep with
  | moves pool phase hhold hopens' hnext hpast =>
    have hv' : Vetted { h with pool } := { hv with }
    exact hv'.setCaller hc (hcaller.onward hphase hpast)
  | begins hhold hopens' hpast hlink =>
    have hv' : Vetted { h with
        link := .opening i, state := .connecting, attempts := h.attempts + 1 } :=
      { hv.relink (by simp [hlink]) with }
    exact hv'.setCaller hc (hcaller.onward hphase (by simp [hpast]))
  | dials | greets | welcomed => cases hopens
  | fails e stream inlet hopens' =>
    rw [hopens] at hopens'
    cases hopens'
  | @enters q buffer =>
    obtain ⟨hnamed, hplace⟩ := hcaller q rfl
    have hplain : q.command.subscribes = false :=
      (hplace.resolve_left hphase).resolve_left (by simp [CallerPhase.isPast])
    have hv' : Vetted { h with unwritten := h.unwritten ++ [⟨i, q.command⟩] } :=
      { hv with
        unwritten :=
          List.forall_mem_append.mpr ⟨hv.unwritten, List.forall_mem_singleton.mpr hplain⟩ }
    exact hv'.setCaller hc (hcaller.past rfl)
  | @starts errand buffer =>
    have hv' : Vetted { h with drives := h.drives ++ [.starting buffer] } :=
      { hv with
        linked := by
          intro k p hk hp
          rcases getElem?_concat_cases hk with hk | ⟨-, rfl⟩
          · exact hv.linked k p hk hp
          · cases hp
        spoken := fun s hs =>
          (hv.spoken s hs).same (unsent_append_starting buffer) rfl id id }
    exact hv'.setCaller hc (hcaller.past rfl)

/-! ## Drives -/

theorem linked_set (hv : h.Vetted) (hlinked : p'.isWriting → h.link = .up) (k : Nat)
    (q : DrivePhase) (hk : (h.drives.set j p')[k]? = some q) (hq : q.isWriting) : h.link = .up := by
  rcases getElem?_set_cases hk with ⟨-, rfl⟩ | ⟨-, hk⟩
  · exact hlinked hq
  · exact hv.linked k q hk hq

/-- A drive moves on, and maybe takes or leaves the writer, without having anything to send that it
    did not have before. -/
theorem relock {writer : Option Nat} (hv : h.Vetted) (hlinked : p'.isWriting → h.link = .up)
    (hunsent : unsent writer (h.drives.set j p') = unsent h.writer h.drives) :
    Vetted (({ h with writer }).setDrive j p') :=
  { hv with
    linked := hv.linked_set hlinked
    spoken := fun s hs => (hv.spoken s hs).same hunsent rfl id id }

theorem onward (hv : h.Vetted) (hj : h.drives[j]? = some p) (hlinked : p'.isWriting → h.link = .up)
    (hunsent : p'.unsent = p.unsent) : Vetted (h.setDrive j p') :=
  hv.relock hlinked (unsent_set hj hunsent)

/-- A drive that has nothing to send lets go of the writer. -/
theorem leaveWriter (hv : h.Vetted) (hj : h.drives[j]? = some p) (hwriter : h.writer = some j)
    (hunsent : p.unsent = []) (hp' : p'.isWriting = false) : Vetted (h.releaseWriter j p') := by
  refine hv.relock (by simp [hp']) ?_
  rw [hwriter, unsent_of_holder hj, hunsent]
  rfl

theorem takes {buffer : Bytes} {t : Ticket} {rest : List Ticket} (hv : h.Vetted)
    (hj : h.drives[j]? = some (.choosing buffer)) (hwriter : h.writer = some j)
    (ht : h.unwritten = t :: rest) :
    Vetted (({ h with unwritten := rest, unanswered := h.unanswered ++ [t] }).setDrive j
      (.writing (Transfer.write h.pool.capacity buffer t.command).slices)) := by
  have hold : unsent h.writer h.drives = [] := by
    rw [hwriter, unsent_of_holder hj]
    rfl
  have hnew : unsent h.writer (h.drives.set j
      (.writing (Transfer.write h.pool.capacity buffer t.command).slices)) = t.command.encode := by
    rw [hwriter, unsent_set_self hj]
    exact Transfer.write_flatten _ _ _
  have hplain : ∀ t' ∈ t :: rest, t'.command.subscribes = false := ht ▸ hv.unwritten
  exact { hv with
    unwritten := fun t' ht' => hplain t' (List.mem_cons_of_mem _ ht')
    linked := hv.linked_set fun _ => hv.linked j _ hj rfl
    spoken := by
      intro s hs
      obtain ⟨written, hall, hwired⟩ := hv.spoken s hs
      have hboth := List.forall_mem_append.mpr
        ⟨hall, List.forall_mem_singleton.mpr (hplain t List.mem_cons_self)⟩
      exact ⟨written ++ [t.command], hboth, hwired.takes hold hnew⟩ }

theorem sends {slice : Bytes} {rest : List Bytes} {s s' : Stream} (hv : h.Vetted)
    (hj : h.drives[j]? = some (.writing (slice :: rest))) (hwriter : h.writer = some j)
    (hs : h.stream = some s) (hsend : s.send slice = .ok s') :
    Vetted (({ h with stream := some s' }).setDrive j (.writing rest)) := by
  have hunsent : unsent h.writer h.drives
      = slice ++ unsent h.writer (h.drives.set j (.writing rest)) := by
    rw [hwriter, unsent_of_holder hj, unsent_set_self hj]
    rfl
  obtain ⟨written, hall, hwired⟩ := hv.spoken s hs
  exact { hv with
    linked := hv.linked_set fun _ => hv.linked j _ hj rfl
    spoken := by
      intro s'' hs''
      cases hs''
      exact ⟨written, hall, hwired.sends hsend hunsent⟩ }

/-- A drive cannot send the rest of its command. Nor can anybody after it. -/
theorem sticks {slice : Bytes} (hv : h.Vetted) (hp' : p'.isWriting = false)
    (hstuck : ∀ s, h.stream = some s → ∃ fault, s.send slice = .error fault) :
    Vetted (h.releaseWriter j p') :=
  { hv with
    linked := hv.linked_set (by simp [hp'])
    spoken := by
      intro s hs
      obtain ⟨written, hall, hwired⟩ := hv.spoken s hs
      obtain ⟨fault, hsend⟩ := hstuck s hs
      exact ⟨written, hall, hwired.sticks hsend⟩ }

/-- A drive moves on where it has nothing to send and gets nothing. -/
theorem rests (hv : h.Vetted) (hj : h.drives[j]? = some p) (hp : p.unsent = [])
    (hp' : p'.isWriting = false) : Vetted (h.setDrive j p') :=
  hv.onward hj (by simp [hp']) ((DrivePhase.unsent_of_not hp').trans hp.symm)

theorem tainted {reason : String} (hv : h.Vetted) : (h.tainted reason).Vetted := { hv with }

theorem closePool (hv : h.Vetted) : h.closePool.Vetted := { hv with }

theorem drain {reason : String} (hv : h.Vetted) : (h.drain reason).Vetted :=
  { hv with unwritten := by simp [Hub.drain] }

theorem complete {t : Ticket} {outcome : Except Error Reply} (hv : h.Vetted) :
    (h.complete t outcome).Vetted := { hv with }

theorem freeReader (hv : h.Vetted) : Vetted { h with reader := none } := { hv with }

theorem drive (hv : h.Vetted) (hl : Locked h.writer h.reader h.drives) (hj : h.drives[j]? = some p)
    (hstep : DriveStep h j p h') : h'.Vetted := by
  have hwriter (hp : p.writes) : h.writer = some j := (hl j p hj).1 hp
  cases hstep with
  | refused ht => exact hv.rests hj rfl rfl
  | begins ht hup => exact hv.onward hj (fun _ => hup) rfl
  | locksWriter hfree =>
    refine hv.relock (fun _ => hv.linked j _ hj rfl) ?_
    rw [hfree, unsent_set_self hj]
    rfl
  | findsNothing hnil => exact hv.leaveWriter hj (hwriter rfl) rfl rfl
  | takes ht => exact hv.takes hj (hwriter rfl) ht
  | hasWritten => exact hv.leaveWriter hj (hwriter rfl) rfl rfl
  | sends hs hsend => exact hv.sends hj (hwriter rfl) hs hsend
  | sticks reason hstuck => exact hv.sticks rfl hstuck
  | shelves =>
    have hv' : Vetted { h with pool := h.pool.putBuffer } := { hv with }
    exact hv'.rests hj rfl rfl
  | @returns next =>
    have hv' : Vetted { h with pool := h.pool.giveBack } := { hv with }
    exact hv'.rests hj rfl (by cases next <;> rfl)
  | locksReader hfree =>
    have hv' : Vetted { h with reader := some j } := { hv with }
    exact hv'.rests hj rfl rfl
  | missesAll hnil => exact hv.freeReader.rests hj rfl rfl
  | @fetches t rest ht =>
    have hv' : Vetted { h with unanswered := rest } := { hv with }
    exact hv'.rests hj rfl rfl
  | completes stream inlet hi => exact (hv.intake hi).1.complete.freeReader.rests hj rfl rfl
  | fails e stream inlet hi => exact (hv.intake hi).1.rests hj rfl rfl
  | taints => exact hv.tainted.rests hj rfl rfl
  | closesPool => exact hv.closePool.rests hj rfl rfl
  | drains => exact hv.drain.rests hj rfl rfl
  | settles => exact hv.complete.freeReader.rests hj rfl rfl
  | ends => exact hv.rests hj rfl rfl

theorem setCloser {phase : CloserPhase} (hv : h.Vetted) : (h.setCloser k phase).Vetted :=
  { hv with }

theorem closer {phase : CloserPhase} (hv : h.Vetted) (hstep : CloserStep h k phase h') :
    h'.Vetted := by
  cases hstep with
  | taints => exact hv.tainted.setCloser
  | closesPool => exact hv.closePool.setCloser
  | drains => exact hv.drain.setCloser
  | ends => exact hv.setCloser
  | shutsDown =>
    exact { hv with
      spoken := by
        intro s' hs'
        obtain ⟨s, hs, rfl⟩ := Option.map_eq_some_iff.mp hs'
        exact (hv.spoken s hs).same rfl rfl (fun _ => rfl) id }

/-! ## Everybody -/

theorem enter {errand : Errand} (hv : h.Vetted)
    (hnamed : ∀ q, errand = .call q → q.command.words ≠ []) :
    Vetted { h with callers := h.callers ++ [⟨errand, .entering⟩] } :=
  { hv with
    callers := by
      intro k c hk
      rcases getElem?_concat_cases hk with hk | ⟨-, rfl⟩
      · exact hv.callers k c hk
      · exact fun q hq => ⟨hnamed q hq, Or.inl rfl⟩ }

theorem expire {t : Task} (hv : h.Vetted) (ha : Alone h.link h.callers)
    (hstep : h.expire t = some h') : h'.Vetted := by
  unfold Hub.expire at hstep
  split at hstep
  · rename_i span h₁ _ hi
    obtain ⟨hv₁, hcallers, hlink⟩ := hv.intake hi
    cases t with
    | caller i =>
      dsimp only at hstep
      split at hstep
      · rename_i errand hc
        cases hstep
        have hopening := ha i _ (hcallers ▸ hc) rfl
        exact hv₁.openFailed hc (by simp [hlink, hopening])
      · cases hstep
    | drive j =>
      dsimp only at hstep
      split at hstep
      · rename_i ticket hj
        cases hstep
        exact hv₁.rests hj rfl rfl
      · cases hstep
    | closer k => cases hstep
  · cases hstep

/-- What the peer does changes nothing of what was sent, nor lets anybody send again. -/
theorem onPeer {f : Stream → Stream} (hv : h.Vetted) (hsent : ∀ s, (f s).sent = s.sent)
    (hshut : ∀ s, (f s).shut = s.shut) (hbroken : ∀ s : Stream, s.broken → (f s).broken) :
    (h.onPeer f).Vetted := by
  unfold Hub.onPeer
  split
  · rename_i s hs
    exact hv.restream ((hv.spoken s hs).same rfl (hsent s) (by simp [hshut]) (hbroken s))
  · rename_i s hs hnet
    exact { hv with
      fresh := by
        intro s' hs'
        cases hs'
        rw [hsent, hv.fresh s hnet] }
  · exact hv

theorem peer (hv : h.Vetted) (hpeer : m.isPeers) (hstep : h.step? m = some h') : h'.Vetted := by
  cases m with
  | receive bytes =>
    cases hstep
    exact hv.onPeer (fun _ => rfl) (fun _ => rfl) fun _ => id
  | finish =>
    cases hstep
    exact hv.onPeer (fun _ => rfl) (fun _ => rfl) fun _ => id
  | sever =>
    cases hstep
    exact hv.onPeer (fun _ => rfl) (fun _ => rfl) fun _ _ => rfl
  | _ => cases hpeer

theorem step (hv : h.Vetted) (ha : Alone h.link h.callers)
    (hl : Locked h.writer h.reader h.drives)
    (hnamed : ∀ q, m = .enter (.call q) → q.command.words ≠ []) (hstep : h.step? m = some h') :
    h'.Vetted := by
  cases moved_of_step? hstep with
  | enters errand => exact hv.enter fun q hq => hnamed q (hq ▸ rfl)
  | closes => exact { hv with }
  | @caller _ i c hc hcaller =>
    simp only [step?, advance, hc] at hstep
    obtain ⟨errand, phase⟩ := c
    -- `CallerStep` does not say what the first step looks at, nor what a failed opening leaves on
    -- the stream
    cases phase with
    | entering => exact hv.entrance hc (entrance_of_advanceCaller hstep)
    | dialing =>
      cases hstep
      exact hv.dialed hc (by simp [ha i _ hc rfl])
    | authenticating => exact hv.authenticating hc (by simp [ha i _ hc rfl]) hstep
    | _ => exact hv.caller hc (by simp) rfl hcaller
  | closer hk hcloser => exact hv.closer hcloser
  | drive hj hdrive | driveExpires hj hdrive => exact hv.drive hl hj hdrive
  | @callerExpires i => exact hv.expire (t := .caller i) ha hstep
  | @leaves i c pool hc hopens hentered hclosed =>
    have hv' : Vetted { h with pool } := { hv with }
    exact hv'.setCaller hc ((hv.callers i c hc).past rfl)
  | @hangsUp i c hc hopens =>
    have hup : h.link ≠ .up := by simp [ha i c hc hopens]
    have hv' : Vetted { h with link := .vacant, stream := none } :=
      { hv.relink hup with spoken := fun s hs => by cases hs }
    exact hv'.setCaller hc ((hv.callers i c hc).past rfl)
  | peer stream network hsame hpeer => exact hv.peer hpeer hstep

theorem only (hv : h.Vetted) : Command.Only (fun d => d.subscribes = false) h.wire := by
  cases hs : h.stream with
  | none =>
    refine ⟨[], ?_, by simp⟩
    rw [wire, hs]
    exact List.nil_prefix
  | some s =>
    rw [wire, hs]
    exact (hv.spoken s hs).only

end Vetted

end Hub

namespace Chronicle

variable {w : Chronicle} {moves : List Move} {settings : Settings} {network : Network}

/-- If every command that a hub is called with has a name, nothing that subscribes gets anywhere. -/
theorem vetted_run (hfresh : ∀ s, network = .accepts s → s.sent = [])
    (hnamed : ∀ q, .enter (.call q) ∈ moves → q.command.words ≠ [])
    (hrun : (start settings network).run? moves = some w) : w.hub.Vetted := by
  have hstart : (start settings network).Regular ∧ (start settings network).hub.Vetted :=
    ⟨.start settings network, .start hfresh⟩
  refine (iterates.always_of_allowed (P := fun w => w.Regular ∧ w.hub.Vetted)
    (fun m => ∀ q, m = .enter (.call q) → q.command.words ≠ []) ?_
    (fun m hm q hq => hnamed q (hq ▸ hm)) hstart hrun).2
  intro w₁ w₂ m hm hboth hstep
  obtain ⟨hr, hv⟩ := hboth
  -- who may open and who may write is known of every chronicle, vetted or not
  have hr₂ := hr.step hstep
  obtain ⟨h', hmove, rfl⟩ := exists_of_step? hstep
  exact ⟨hr₂, hv.step hr.alone hr.kept.locked hm hmove⟩

end Chronicle

/-- As long as names have words, a command is classified by what is sent of it: its keyword is the
    first token of its request in capitals, and neither a connection nor a hub ever sends a request
    to change a subscription that it was not asked for as such. A command with a blank name is
    classified as nothing, and its keyword is not what is sent. -/
theorem Command.keyword_agrees (c : Command) (stream : Stream) (settings : Settings)
    (happenings : List Happening) (network : Network) (moves : List Move) (w : Chronicle) :
    (∀ t, c.tokens.head? = some t → (∃ tail, c.encode = c.header ++ (bulkFrame t ++ tail)) ∧
      (Text.toBytes c.keyword = t.map capital ↔ c.words ≠ [] ∨ t = [])) ∧
    (c.words ≠ [] → c.isMulti = c.begins "MULTI" ∧ c.isExec = c.begins "EXEC" ∧
      c.isDiscard = c.begins "DISCARD" ∧ c.isSubscriptionChange = c.subscribes) ∧
    (c.words = [] → c.keyword = "" ∧ c.isMulti = false ∧ c.isExec = false ∧
      c.isDiscard = false ∧ c.isSubscriptionChange = false) ∧
    (stream.sent = [] → (∀ x ∈ happenings, ∀ command ∈ x.commands, command.words ≠ []) →
      Only (fun d => d.subscribes → ∃ x ∈ happenings, ∃ ch, x.change? = some ch ∧ d = ch.command)
        ((Connection.ofStream stream settings).live happenings).stream.sent ∧
      ((∀ x ∈ happenings, x.change? = none) → ∀ d : Command,
        d.OnWire ((Connection.ofStream stream settings).live happenings).stream.sent →
        d.subscribes = false)) ∧
    ((∀ s, network = .accepts s → s.sent = []) →
      (∀ q, .enter (.call q) ∈ moves → q.command.words ≠ []) →
      (Chronicle.start settings network).run? moves = some w →
      Only (fun d => d.subscribes = false) w.hub.wire ∧
      ∀ d : Command, d.OnWire w.hub.wire → d.subscribes = false) := by
  refine ⟨?_, ?_, ?_, ?_, ?_⟩
  · intro t ht
    exact ⟨encode_of_head ht, toBytes_keyword_iff ht⟩
  · intro hc
    exact ⟨keyword_beq hc _, keyword_beq hc _, keyword_beq hc _, isSubscriptionChange_eq hc⟩
  · intro hc
    exact keyword_of_blank hc
  · intro hsent hnamed
    have honly := Connection.only_of_live stream settings hsent hnamed
    refine ⟨honly, fun hplain d hd => ?_⟩
    obtain ⟨d', hd', htokens⟩ := honly.exists_of_onWire hd
    rw [← subscribes_congr htokens]
    refine Bool.eq_false_iff.mpr fun hsub => ?_
    obtain ⟨x, hx, ch, hch, -⟩ := hd' hsub
    rw [hplain x hx] at hch
    cases hch
  · intro hfresh hnamed hrun
    have honly := (Chronicle.vetted_run hfresh hnamed hrun).only
    exact ⟨honly, fun d hd => honly.not_subscribes hd⟩

/-- Two callers of a hub. The second takes its first step, and the first goes on until its command
    has been written. -/
def Chronicle.untilWritten (first second : Command) : List Move :=
  [.enter (.call (.raw first)), .enter (.call (.raw second)), .step (.caller 1)]
    ++ List.replicate 7 (.step (.caller 0)) ++ List.replicate 6 (.step (.drive 0))

namespace Command

/-- A request to look something up, and one to subscribe, as somebody might type them. -/
def typed : Command := ⟨"gEt", [[107]]⟩

def disguised : Command := ⟨"\tsUbscribe ", [[107]]⟩

/-- A request to subscribe that is spelled in its arguments alone. -/
def nameless : Command := ⟨"", [Text.toBytes "SUBSCRIBE", [107]]⟩

/-- Both are asked of a connection and of a hub, and each sends the one that does not subscribe. -/
theorem keyword_agrees_disguised :
    disguised.words ≠ [] ∧
    (∃ t, disguised.tokens.head? = some t ∧ Text.toBytes disguised.keyword = t.map capital) ∧
    disguised.isSubscriptionChange = disguised.subscribes ∧ disguised.subscribes = true ∧
    (∃ sent, ((Connection.ofStream (Stream.greeting [36, 45, 49, 13, 10]) Settings.default).live
        [.deed (.operate (.call (.raw typed))),
          .deed (.operate (.call (.raw disguised)))]).stream.sent = sent ∧
      sent = typed.encode ∧ ∀ d : Command, d.OnWire sent → d.subscribes = false) ∧
    ∃ w, (Chronicle.start Settings.default (.accepts (Stream.greeting []))).run?
        (Chronicle.untilWritten typed disguised) = some w ∧
      w.hub.wire = typed.encode ∧ ∀ d : Command, d.OnWire w.hub.wire → d.subscribes = false := by
  have htyped : typed.words ≠ [] := by decide +kernel
  have hdisguised : disguised.words ≠ [] := by decide +kernel
  have hshared : ((Chronicle.start Settings.default (.accepts (Stream.greeting []))).run?
      (Chronicle.untilWritten typed disguised)).map (fun w => w.hub.wire) = some typed.encode := by
    decide +kernel
  obtain ⟨w, hrun, hwire⟩ := Option.map_eq_some_iff.mp hshared
  obtain ⟨hfirst, hnamed, -, hconnection, hhub⟩ := keyword_agrees disguised
    (Stream.greeting [36, 45, 49, 13, 10]) Settings.default
    [.deed (.operate (.call (.raw typed))), .deed (.operate (.call (.raw disguised)))]
    (.accepts (Stream.greeting [])) (Chronicle.untilWritten typed disguised) w
  have hhead : disguised.tokens.head? = some (Text.toBytes "sUbscribe") := by decide +kernel
  refine ⟨hdisguised, ⟨_, hhead, (hfirst _ hhead).2.mpr (Or.inl hdisguised)⟩,
    (hnamed hdisguised).2.2.2, by decide +kernel, ⟨_, rfl, by decide +kernel, ?_⟩,
    w, hrun, hwire, ?_⟩
  · have hcalls := hconnection rfl
      (by simp [Happening.commands, Operation.commands, Request.raw, htyped, hdisguised])
    exact hcalls.2 (by simp [Happening.change?, Operation.change?])
  · refine (hhub ?_ ?_ hrun).2
    · intro s hs
      cases hs
      rfl
    · intro q hq
      have hcallers : q = .raw typed ∨ q = .raw disguised := by
        simpa [Chronicle.untilWritten] using hq
      rcases hcallers with rfl | rfl
      · exact htyped
      · exact hdisguised

/-- Without a name a command passes both guards, on a connection and on a hub, and its request
    subscribes all the same. -/
theorem nameless_subscribes :
    nameless.tokens.head? = some (Text.toBytes "SUBSCRIBE") ∧ nameless.subscribes = true ∧
    nameless.keyword = "" ∧ nameless.isSubscriptionChange = false ∧
    ((Connection.ofStream (Stream.greeting []) Settings.default).live
      [.deed (.operate (.call (.raw nameless)))]).stream.sent = nameless.encode ∧
    ((Chronicle.start Settings.default (.accepts (Stream.greeting []))).run?
        (Chronicle.untilWritten nameless typed)).map (fun w => w.hub.wire)
      = some nameless.encode := by
  refine ⟨?_, ?_, ?_, ?_, ?_, ?_⟩ <;> decide +kernel

end Command

end RespLink
