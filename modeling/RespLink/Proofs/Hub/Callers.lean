import RespLink.Proofs.Hub.Drives
import RespLink.Proofs.Stream.Answers

/-!
# Callers — what one step of a caller can do

A caller has many places to be and little to do in most of them. Its steps come down to eight:
six that change the hub each in its own way, one that merely moves the caller on (the pool may
change as well), and one that fails to open the stream. Whatever is to be shown of all steps of
callers is shown of these.
-/

namespace RespLink

/-- What the client has made of a stream. The peer has no part in that. -/
def Stream.outgoing (s : Stream) : Bytes × Bool := (s.sent, s.shut)

namespace CallerPhase

/-- Whether a caller is opening the stream. -/
def opens : CallerPhase → Bool
  | .dialing | .authenticating => true
  | _ => false

/-- Whether a caller has come past the point where it enters its command. -/
def isPast : CallerPhase → Bool
  | .entered _ | .waiting | .finished _ | .gone => true
  | _ => false

/-- Whether a caller waits until somebody else has opened the stream. -/
def awaits : CallerPhase → Bool
  | .awaitingLink => true
  | _ => false

/-- Whether a caller is on its way to the stream, or has ended without it. -/
def isOutside : CallerPhase → Bool
  | .entering | .linking | .awaitingLink | .dialing | .authenticating | .gone => true
  | .finished (.error _) => true
  | _ => false

/-- Whether a caller has a permit and has not entered its command yet. -/
def isAdmitted : CallerPhase → Bool
  | .permitted | .holding _ => true
  | _ => false

/-- Whether a caller has entered its command and not started the drive yet. -/
def isEntered : CallerPhase → Bool
  | .entered _ => true
  | _ => false

/-- What is known of where a caller goes that merely moves on. Nobody waits for the stream unless
    somebody opens it, and nobody is admitted by a closed pool. -/
structure MovesOn (h : Hub) (p next : CallerPhase) : Prop where
  started : p.isEntered = false := by rfl
  entered : next.isEntered = false := by rfl
  awaits : next.awaits → h.taint = none ∧ h.link ≠ .vacant := by simp [CallerPhase.awaits]
  outside : next.isOutside = false → p.isOutside = false ∨ h.link = .up := by
    simp [CallerPhase.isOutside]
  admitted : next.isAdmitted → p.isAdmitted ∨ h.pool.closed = false := by
    simp [CallerPhase.isAdmitted]
  told : ∀ outcome reason, next = .finished outcome → p.isOutside → h.taint = some reason →
    outcome = .error (.tainted reason) := by simp [CallerPhase.isOutside]

theorem isEntered_of_opens {p : CallerPhase} (hopens : p.opens) : p.isEntered = false := by
  cases p with
  | entered buffer => cases hopens
  | _ => rfl

end CallerPhase

namespace Pool

variable (p : Pool) (who : Nat)

@[simp] theorem closed_giveBack : p.giveBack.closed = p.closed := by
  unfold giveBack
  split <;> rfl

@[simp] theorem closed_withdraw : (p.withdraw who).closed = p.closed := by
  unfold withdraw
  split <;> simp

@[simp] theorem closed_takeBuffer : p.takeBuffer.2.closed = p.closed := by
  unfold takeBuffer
  split <;> rfl

theorem ask_spec : (p.ask who).2.closed = p.closed ∧
    ((p.ask who).1 = .permitted → p.closed = false) := by
  unfold ask
  split
  · simp
  · split <;> simp_all

theorem look_spec : (p.look who).2.closed = p.closed ∧
    ((p.look who).1 = .permitted → p.closed = false) := by
  unfold look
  split
  · simp
  · split <;> simp_all

end Pool

theorem getElem?_modify_cases {callers : List Caller} {f : Caller → Caller} {i k : Nat}
    {c : Caller} (h : (callers.modify i f)[k]? = some c) :
    (k = i ∧ ∃ c', callers[i]? = some c' ∧ c = f c') ∨ k ≠ i ∧ callers[k]? = some c := by
  rw [List.getElem?_modify] at h
  by_cases hk : i = k
  · subst hk
    simp only [if_true, Option.map_eq_map, Option.map_eq_some_iff] at h
    obtain ⟨c', hc', rfl⟩ := h
    exact Or.inl ⟨rfl, c', hc', rfl⟩
  · simp only [if_neg hk, id_map'] at h
    exact Or.inr ⟨Ne.symm hk, by simpa using h⟩

namespace Hub

/-! ## Who opens the stream -/

/-- Nobody opens the stream but the caller that the link names. -/
def Alone (link : Link) (callers : List Caller) : Prop :=
  ∀ (i : Nat) (c : Caller), callers[i]? = some c → c.phase.opens → link = .opening i

namespace Alone

variable {callers : List Caller} {i : Nat} {c : Caller} {phase : CallerPhase} {link link' : Link}

theorem nobody (ha : Alone link callers) (hlink : ∀ k, link ≠ .opening k) (i : Nat) (c : Caller)
    (hc : callers[i]? = some c) : c.phase.opens = false := by
  refine Bool.eq_false_iff.mpr fun hopens => ?_
  exact hlink i (ha i c hc hopens)

theorem others (ha : Alone link callers) (hc : callers[i]? = some c) (hopens : c.phase.opens)
    (k : Nat) (c' : Caller) (hk : k ≠ i) (hc' : callers[k]? = some c') :
    c'.phase.opens = false := by
  refine Bool.eq_false_iff.mpr fun hopens' => ?_
  have hi := ha i c hc hopens
  rw [ha k c' hc' hopens', Link.opening.injEq] at hi
  exact hk hi

theorem enter (ha : Alone link callers) (errand : Errand) :
    Alone link (callers ++ [⟨errand, .entering⟩]) := by
  intro k c hc hopens
  rcases getElem?_concat_cases hc with hc | ⟨-, rfl⟩
  · exact ha k c hc hopens
  · cases hopens

/-- A caller moves to where it does not open the stream. -/
theorem move (ha : Alone link callers) (hphase : phase.opens = false) :
    Alone link (callers.modify i fun c => { c with phase }) := by
  intro k c hc hopens
  rcases getElem?_modify_cases hc with ⟨-, c', -, rfl⟩ | ⟨-, hc⟩
  · exact absurd hopens (by simp [hphase])
  · exact ha k c hc hopens

/-- A caller does something about the stream while nobody else does. -/
theorem replace (hothers : ∀ (k : Nat) (c : Caller), k ≠ i → callers[k]? = some c →
    c.phase.opens = false) (hphase : phase.opens → link' = .opening i) :
    Alone link' (callers.modify i fun c => { c with phase }) := by
  intro k c hc hopens
  rcases getElem?_modify_cases hc with ⟨rfl, c', -, rfl⟩ | ⟨hk, hc⟩
  · exact hphase hopens
  · exact absurd hopens (by simp [hothers k c hk hc])

end Alone

variable {h h' : Hub} {i : Nat} {c : Caller}

/-! ## Looking for a frame -/

/-- Looking for a frame changes nothing but what is between the stream and the inlet. -/
theorem intake_cases (h : Hub) :
    (h.stream = none ∧ h.intake = (.pending, h)) ∨
    ∃ s arrived intake inlet, h.stream = some s ∧
      h.intake = (intake, { h with inlet, stream := some { s with arrived } }) ∧
      Inlet.Looked (h.inlet.unread s) s (intake, inlet, { s with arrived }) := by
  cases hs : h.stream with
  | none => exact Or.inl ⟨rfl, by simp [Hub.intake, hs]⟩
  | some s =>
    have hlooked := h.inlet.next_looked s
    obtain ⟨arrived, harrived⟩ := hlooked.stream
    refine Or.inr ⟨s, arrived, (h.inlet.next s).1, (h.inlet.next s).2.1, rfl, ?_, ?_⟩
    · simp only [Hub.intake, hs, harrived]
    · rw [← harrived]
      exact hlooked

theorem exists_of_intake {intake : Intake} (hi : h.intake = (intake, h')) :
    ∃ stream inlet, h' = { h with stream, inlet } ∧
      stream.map Stream.outgoing = h.stream.map Stream.outgoing := by
  rcases h.intake_cases with ⟨-, hnone⟩ | ⟨s, arrived, intake', inlet, hs, hsome, -⟩
  · rw [hnone] at hi
    cases hi
    exact ⟨h.stream, h.inlet, rfl, rfl⟩
  · rw [hsome] at hi
    cases hi
    refine ⟨some { s with arrived }, inlet, rfl, ?_⟩
    rw [hs]
    rfl

/-- A frame that was found is the first of what the stream and the inlet held together. -/
theorem exists_of_intake_frame {h' : Hub} {r : Reply} (hi : h.intake = (.frame r, h')) :
    ∃ s arrived inlet, h.stream = some s ∧
      h' = { h with inlet, stream := some { s with arrived } } ∧
      Reply.read (h.inlet.unread s) = .ok (r, inlet.unread { s with arrived }) := by
  rcases h.intake_cases with ⟨-, hnone⟩ | ⟨s, arrived, intake, inlet, hs, hsome, hlooked⟩
  · rw [hnone] at hi
    cases hi
  · rw [hsome] at hi
    cases hi
    exact ⟨s, arrived, inlet, hs, rfl, hlooked.frame r rfl⟩

/-! ## Steps -/

/-- What a step of caller `i` does. -/
inductive CallerStep (h : Hub) (i : Nat) : Caller → Hub → Prop
  | moves {c : Caller} (pool : Pool) (phase : CallerPhase) :
    (∀ buffer, c.phase ≠ .holding buffer) → c.phase.opens = false → phase.opens = false →
    (c.phase.isPast → phase.isPast) →
    (∀ r, phase = .finished (.ok (some r)) → h.completion? i = some (.ok r)) →
    pool.closed = h.pool.closed → c.phase.MovesOn h phase →
    CallerStep h i c (({ h with pool }).setCaller i phase)
  | begins {c : Caller} :
    (∀ buffer, c.phase ≠ .holding buffer) → c.phase.opens = false → c.phase.isPast = false →
    h.link = .vacant → (h.taint = none ∨ c.phase.awaits) → CallerStep h i c (h.beginOpening i)
  | dials {errand : Errand} {s : Stream} :
    h.network = .accepts s → h.settings.password = none →
    CallerStep h i ⟨errand, .dialing⟩
      (({ h with stream := some s, inlet := Inlet.start h.settings.maxFrameSize }).opened i)
  | greets {errand : Errand} {s s' : Stream} {password : String} :
    h.network = .accepts s → h.settings.password = some password →
    s.send (Catalog.auth (Argument.ofText password)).command.encode = .ok s' →
    CallerStep h i ⟨errand, .dialing⟩
      (({ h with stream := some s', inlet := Inlet.start h.settings.maxFrameSize }).setCaller i
        .authenticating)
  | welcomed {errand : Errand} {r : Reply} (stream : Option Stream) (inlet : Inlet) :
    h.intake = (.frame r, { h with stream, inlet }) → Shape.unit.project r = .ok () →
    CallerStep h i ⟨errand, .authenticating⟩ (({ h with stream, inlet }).opened i)
  | fails {c : Caller} (e : Error) (stream : Option Stream) (inlet : Inlet) :
    c.phase.opens → CallerStep h i c (({ h with stream, inlet }).openFailed i e)
  | enters {q : Request} {buffer : Bytes} :
    CallerStep h i ⟨.call q, .holding buffer⟩
      (({ h with unwritten := h.unwritten ++ [Ticket.mk i q.command] }).setCaller i
        (.entered buffer))
  | starts {errand : Errand} {buffer : Bytes} :
    CallerStep h i ⟨errand, .entered buffer⟩
      (({ h with drives := h.drives ++ [DrivePhase.starting buffer] }).setCaller i .waiting)

theorem callerStep_dialed (errand : Errand) : CallerStep h i ⟨errand, .dialing⟩ (h.dialed i) := by
  unfold dialed
  split
  · rename_i e _
    exact .fails e h.stream h.inlet rfl
  · rename_i s hdial
    have hnet : h.network = .accepts s := by
      cases hnet : h.network with
      | accepts s' => rw [hnet] at hdial; cases hdial; rfl
      | refuses => rw [hnet] at hdial; cases hdial
      | unreachable => rw [hnet] at hdial; cases hdial
    dsimp only
    split
    · rename_i hpass
      exact .dials hnet hpass
    · rename_i password hpass
      simp only [send]
      cases hsend : s.send (Catalog.auth (Argument.ofText password)).command.encode with
      | error fault => exact .fails (.io fault) (some s) (Inlet.start h.settings.maxFrameSize) rfl
      | ok s' => exact .greets hnet hpass hsend

theorem callerStep_failed {errand : Errand} {intake : Intake} {h₁ : Hub} (e : Error)
    (hi : h.intake = (intake, h₁)) :
    CallerStep h i ⟨errand, .authenticating⟩ (h₁.openFailed i e) := by
  obtain ⟨stream, inlet, rfl, -⟩ := exists_of_intake hi
  exact .fails e stream inlet rfl

/-- A caller that has not entered its command yet, and does not open the stream, goes on without
    having been told anything. -/
theorem callerStep_before (pool : Pool) (next : CallerPhase)
    (hhold : ∀ buffer, c.phase ≠ .holding buffer) (hopens : c.phase.opens = false)
    (hpast : c.phase.isPast = false) (hnext : next.opens = false)
    (hquiet : ∀ r, next ≠ .finished (.ok (some r))) (hclosed : pool.closed = h.pool.closed)
    (hon : c.phase.MovesOn h next) : CallerStep h i c (({ h with pool }).setCaller i next) := by
  refine .moves pool next hhold hopens hnext ?_ ?_ hclosed hon
  · intro h
    rw [hpast] at h
    cases h
  · intro r hr
    exact absurd hr (hquiet r)

/-- A caller has the pool's answer to what it asked, or sees in line. -/
theorem callerStep_claimed {answer : Pool.Claim × Pool}
    (hphase : c.phase = .claiming ∨ c.phase = .inLine)
    (hclosed : answer.2.closed = h.pool.closed)
    (hpermit : answer.1 = .permitted → h.pool.closed = false) :
    CallerStep h i c (h.claimed i answer) := by
  obtain ⟨claim, pool⟩ := answer
  have hon (next : CallerPhase) (hentered : next.isEntered = false) (hawaits : next.awaits = false)
      (hadmitted : next.isAdmitted → h.pool.closed = false) : c.phase.MovesOn h next := by
    rcases hphase with hc | hc <;> rw [hc]
    · exact { entered := hentered, awaits := by simp [hawaits], outside := fun _ => Or.inl rfl,
              admitted := fun h => Or.inr (hadmitted h) }
    · exact { entered := hentered, awaits := by simp [hawaits], outside := fun _ => Or.inl rfl,
              admitted := fun h => Or.inr (hadmitted h) }
  have hbefore (next : CallerPhase) (hnext : next.opens = false)
      (hquiet : ∀ r, next ≠ .finished (.ok (some r))) (hmoves : c.phase.MovesOn h next) :
      CallerStep h i c (({ h with pool }).setCaller i next) := by
    rcases hphase with hc | hc <;>
      exact callerStep_before pool next (by simp [hc]) (by rw [hc]; rfl) (by rw [hc]; rfl) hnext
        hquiet hclosed hmoves
  cases claim with
  | permitted => exact hbefore .permitted rfl (by simp) (hon _ rfl rfl fun _ => hpermit rfl)
  | wait => exact hbefore .inLine rfl (by simp) (hon _ rfl rfl (by simp [CallerPhase.isAdmitted]))
  | turnedAway =>
    exact hbefore (.finished _) rfl (by simp) (hon _ rfl rfl (by simp [CallerPhase.isAdmitted]))

theorem callerStep_linking {errand : Errand}
    (hstep : h.advanceCaller i ⟨errand, .linking⟩ = some h') :
    CallerStep h i ⟨errand, .linking⟩ h' := by
  simp only [advanceCaller] at hstep
  split at hstep
  · rename_i reason ht
    cases hstep
    exact callerStep_before h.pool (.finished _) (by simp) rfl rfl rfl (by simp) rfl
      { told := by simp [ht] }
  · rename_i hlink
    cases hstep
    exact callerStep_before h.pool .claiming (by simp) rfl rfl rfl (by simp) rfl
      { outside := fun _ => Or.inr hlink }
  · rename_i ht hlink
    cases hstep
    exact .begins (by simp) rfl rfl hlink (Or.inl ht)
  · rename_i k ht hlink
    cases hstep
    exact callerStep_before h.pool .awaitingLink (by simp) rfl rfl rfl (by simp) rfl
      { awaits := fun _ => ⟨ht, by simp [hlink]⟩ }

theorem callerStep_authenticating {errand : Errand}
    (hstep : h.advanceCaller i ⟨errand, .authenticating⟩ = some h') :
    CallerStep h i ⟨errand, .authenticating⟩ h' := by
  simp only [advanceCaller] at hstep
  split at hstep
  · rename_i r h₁ hi
    cases hstep
    unfold answered
    split
    · rename_i hr
      obtain ⟨stream, inlet, rfl, -⟩ := exists_of_intake hi
      exact .welcomed stream inlet hi hr
    · rename_i e hr
      exact callerStep_failed e hi
  · rename_i e h₁ hi
    cases hstep
    exact callerStep_failed e hi
  · rename_i h₁ hi
    cases hstep
    exact callerStep_failed .connectionClosed hi
  · cases hstep

theorem callerStep_of_advanceCaller (hstep : h.advanceCaller i c = some h') :
    CallerStep h i c h' := by
  obtain ⟨errand, phase⟩ := c
  cases phase with
  | entering =>
    simp only [advanceCaller] at hstep
    split at hstep
    · rename_i reason ht
      cases hstep
      exact callerStep_before h.pool (.finished _) (by simp) rfl rfl rfl (by simp) rfl
        { told := by simp [ht] }
    · cases hstep
      exact callerStep_before h.pool .linking (by simp) rfl rfl rfl (by simp) rfl {}
    · rename_i q ht
      split at hstep
      · cases hstep
        exact callerStep_before h.pool (.finished _) (by simp) rfl rfl rfl (by simp) rfl
          { told := by simp [ht] }
      · cases hstep
        exact callerStep_before h.pool .linking (by simp) rfl rfl rfl (by simp) rfl {}
  | linking => exact callerStep_linking hstep
  | awaitingLink =>
    simp only [advanceCaller] at hstep
    split at hstep
    · rename_i hlink
      cases hstep
      exact callerStep_before h.pool .claiming (by simp) rfl rfl rfl (by simp) rfl
        { outside := fun _ => Or.inr hlink }
    · rename_i hlink
      cases hstep
      exact .begins (by simp) rfl rfl hlink (Or.inr rfl)
    · cases hstep
  | dialing =>
    cases hstep
    exact callerStep_dialed errand
  | authenticating => exact callerStep_authenticating hstep
  | claiming =>
    cases errand with
    | link =>
      cases hstep
      exact callerStep_before h.pool (.finished _) (by simp) rfl rfl rfl (by simp) rfl
        { outside := fun _ => Or.inl rfl }
    | call q =>
      cases hstep
      exact callerStep_claimed (Or.inl rfl) (h.pool.ask_spec i).1 (h.pool.ask_spec i).2
  | inLine =>
    simp only [advanceCaller] at hstep
    split at hstep
    · cases hstep
    · cases hstep
      exact callerStep_claimed (Or.inr rfl) (h.pool.look_spec i).1 (h.pool.look_spec i).2
  | permitted =>
    cases hstep
    exact callerStep_before h.pool.takeBuffer.2 (.holding _) (by simp) rfl rfl rfl (by simp)
      h.pool.closed_takeBuffer { outside := fun _ => Or.inl rfl, admitted := fun _ => Or.inl rfl }
  | holding buffer =>
    cases errand with
    | link => cases hstep
    | call q =>
      cases hstep
      exact .enters
  | entered buffer =>
    cases hstep
    exact .starts
  | waiting =>
    simp only [advanceCaller] at hstep
    split at hstep
    · rename_i outcome houtcome
      cases hstep
      refine .moves h.pool (.finished _) (by simp) rfl rfl (fun _ => rfl) ?_ rfl
        { outside := fun _ => Or.inl rfl }
      intro r hr
      cases outcome with
      | error e => cases hr
      | ok r' => cases hr; exact houtcome
    · cases hstep
  | finished outcome => cases hstep
  | gone => cases hstep

end Hub

end RespLink
