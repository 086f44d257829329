import RespLink.Proofs.Hub.Procession

/-!
# Agreement — a hub and a connection

A hub and a connection are two programs. One has queues, locks, a pool and drives, and cuts its
commands into slices; the other has none of these. But where callers come to a hub one after the
other, nobody can tell the difference. Whatever order the steps take, the callers get what they
would have got from a connection whose peer did the same, failures and what they leave behind
included, and the peer gets to see the same bytes (`Procession.agrees_with_conversation`). The
converse holds as well: whatever becomes of calls on a connection can become of them on a hub.

All this is about peers that can be written to. What is left to see is that the hub comes to an open
stream where the connection does. Both dial, and both send the password and look for the answer; as
long as that takes, the hub has come so far as `Procession.Opens` says.
-/

namespace RespLink

namespace Procession

open Hub

variable {settings : Settings} {stream : Stream} {peers : List Peer} {network : Network}
  {p p' : Procession} {s : Conversation} {c : Connection} {x : Peer}

/-! ## On the way to an open stream -/

/-- A hub that nobody has used, where a peer accepts that has done something already. -/
def dialable (settings : Settings) (stream : Stream) (peers : List Peer) : Hub :=
  Hub.start settings (.accepts (peers.foldl Stream.undergo stream))

/-- A hub whose stream is being opened. -/
def opening (settings : Settings) (network : Network) (stream : Option Stream) : Hub :=
  { Hub.start settings network with
    link := .opening 0
    state := .connecting
    attempts := 1
    stream }

/-- A hub with the stream of a connection. -/
def raised (settings : Settings) (network : Network) (c : Connection) : Hub :=
  { Hub.start settings network with
    link := .up
    state := .connected
    attempts := 1
    stream := some c.stream
    inlet := c.inlet }

/-- A hub that has sent the password and waits to be let in. -/
def knocking (settings : Settings) (network : Network) (stream : Stream)
    (password : String) : Hub :=
  (opening settings network
    (some (stream.sending (Catalog.auth (Argument.ofText password)).command.encode))).joined
      ⟨.link, .authenticating⟩ none

/-- A hub whose stream could not be opened, and will not be. -/
structure Down (h : Hub) : Prop extends Still h where
  used : h.callers ≠ []
  link : h.link ≠ .up

/-- Where a procession is that has not come to an open stream. -/
inductive Opens (settings : Settings) (stream : Stream) : Procession → Prop
  | fresh {peers : List Peer} : Opens settings stream ⟨dialable settings stream peers, peers⟩
  | entering {peers : List Peer} :
    Opens settings stream ⟨(dialable settings stream peers).joined ⟨.link, .entering⟩ none, peers⟩
  | linking {peers : List Peer} :
    Opens settings stream ⟨(dialable settings stream peers).joined ⟨.link, .linking⟩ none, peers⟩
  | dialing {peers : List Peer} :
    Opens settings stream
      ⟨(opening settings (.accepts (peers.foldl Stream.undergo stream)) none).joined
        ⟨.link, .dialing⟩ none, peers⟩
  | authenticating {peers : List Peer} {network : Network} {password : String}
    (given : settings.password = some password) :
    Opens settings stream
      ⟨knocking settings network (peers.foldl Stream.undergo stream) password, peers⟩
  | failed {hub : Hub} {peers : List Peer} (down : Down hub) : Opens settings stream ⟨hub, peers⟩

theorem Opens.link_ne (ho : Opens settings stream p) : p.hub.link ≠ .up := by
  cases ho with
  | failed down => exact down.link
  | _ => exact Link.noConfusion

theorem still_start (settings : Settings) (network : Network) :
    (Hub.start settings network).Still := by
  refine ⟨?_, ?_, rfl⟩
  · intro x hx
    cases hx
  · intro x hx
    cases hx

theorem still_opening (settings : Settings) (network : Network) (stream : Option Stream) :
    (opening settings network stream).Still :=
  { still_start settings network with }

theorem foldl_undergo_concat (stream : Stream) (peers : List Peer) (x : Peer) :
    (peers ++ [x]).foldl Stream.undergo stream =
      (peers.foldl Stream.undergo stream).undergo x := by
  rw [List.foldl_append]
  rfl

/-- What the peer does does not hinder it. -/
theorem Opens.undergo (ho : Opens settings stream p) (x : Peer) :
    Opens settings stream ⟨p.hub.onPeer fun stream => stream.undergo x, p.peers ++ [x]⟩ := by
  have hfold := foldl_undergo_concat stream (x := x)
  cases ho with
  | @fresh peers =>
    have hopens := @fresh settings stream (peers ++ [x])
    rw [dialable, hfold] at hopens
    exact hopens
  | @entering peers =>
    have hopens := @entering settings stream (peers ++ [x])
    rw [dialable, hfold] at hopens
    exact hopens
  | @linking peers =>
    have hopens := @linking settings stream (peers ++ [x])
    rw [dialable, hfold] at hopens
    exact hopens
  | @dialing peers =>
    have hopens := @dialing settings stream (peers ++ [x])
    rw [hfold] at hopens
    exact hopens
  | @authenticating peers network password given =>
    have hopens := @authenticating settings stream (peers ++ [x]) network password given
    rw [hfold, knocking, ← sending_undergo] at hopens
    exact hopens
  | @failed hub peers down =>
    obtain ⟨stream, network, hpeer⟩ := hub.exists_onPeer fun stream => stream.undergo x
    rw [hpeer]
    exact .failed { down with }

/-- Only somebody comes who wants the stream to be open, and only once. -/
theorem Opens.enters {errand : Errand} (ho : Opens settings stream p)
    (hadmits : p.admits (.enter errand)) :
    Opens settings stream ⟨p.hub.joined ⟨errand, .entering⟩ none, p.peers⟩ := by
  have hbusy {h : Hub} {c : Caller} {peers : List Peer} (hc : c.phase.isFinished = false)
      (hadmits : admits ⟨h.joined c none, peers⟩ (.enter errand)) : False := by
    rw [not_admits_joined hc] at hadmits
    cases hadmits
  cases ho with
  | fresh =>
    cases errand with
    | link => exact .entering
    | call q => cases hadmits
  | failed down =>
    cases errand with
    | link => exact absurd (List.isEmpty_iff.mp hadmits) down.used
    | call q =>
      simp only [admits, Bool.and_eq_true, decide_eq_true_eq] at hadmits
      exact absurd hadmits.1.1 down.link
  | entering => exact (hbusy rfl hadmits).elim
  | linking => exact (hbusy rfl hadmits).elim
  | dialing => exact (hbusy rfl hadmits).elim
  | authenticating given => exact (hbusy rfl hadmits).elim

/-! ## The steps of opening -/

theorem leads_linking :
    ((dialable settings stream peers).joined ⟨.link, .entering⟩ none).Leads
      ((dialable settings stream peers).joined ⟨.link, .linking⟩ none) :=
  (still_start _ _).leads_of_caller (.inl rfl) CallerPhase.noConfusion
    (congrArg some (setCaller_joined _))

theorem leads_dialing :
    ((dialable settings stream peers).joined ⟨.link, .linking⟩ none).Leads
      ((opening settings (.accepts (peers.foldl Stream.undergo stream)) none).joined
        ⟨.link, .dialing⟩ none) :=
  (still_start _ _).leads_of_caller (.inl rfl) CallerPhase.noConfusion
    (congrArg some (setCaller_joined (h := opening settings _ none) _))

theorem dialed_of_password {h : Hub} {password : String} (stream : Stream)
    (hdial : h.network.dial = .ok stream) (hpassword : h.settings.password = some password)
    (hs : stream.Sendable) (i : Nat) :
    h.dialed i = Hub.setCaller { h with
      stream := some (stream.sending (Catalog.auth (Argument.ofText password)).command.encode)
      inlet := Inlet.start h.settings.maxFrameSize } i .authenticating := by
  simp only [dialed, hdial, hpassword]
  rw [send_of_stream rfl, hs.send_eq]
  rfl

theorem leads_knocking {password : String} (hpassword : settings.password = some password)
    (hs : stream.Sendable) :
    ((opening settings (.accepts stream) none).joined ⟨.link, .dialing⟩ none).Leads
      (knocking settings (.accepts stream) stream password) := by
  refine (still_opening _ _ _).leads_of_caller (.inl rfl) CallerPhase.noConfusion ?_
  simp only [advanceCaller]
  rw [dialed_of_password stream rfl hpassword hs]
  exact congrArg some (setCaller_joined (h := opening settings _ (some _)) _)

theorem dialed_of_no_password {h : Hub} (stream : Stream)
    (hdial : h.network.dial = .ok stream) (hpassword : h.settings.password = none) (i : Nat) :
    h.dialed i = Hub.opened { h with
      stream := some stream
      inlet := Inlet.start h.settings.maxFrameSize } i := by
  simp only [dialed, hdial, hpassword]

/-- Where there is no password, dialling is all. -/
theorem leads_raised (hpassword : settings.password = none) :
    ((opening settings (.accepts stream) none).joined ⟨.link, .dialing⟩ none).Leads
      ((raised settings (.accepts stream) (Connection.ofStream stream settings)).joined
        ⟨.link, .claiming⟩ none) := by
  refine (still_opening _ _ _).leads_of_caller (.inl rfl) CallerPhase.noConfusion ?_
  simp only [advanceCaller]
  rw [dialed_of_no_password stream rfl hpassword]
  exact congrArg some
    (setCaller_joined (h := raised settings _ (Connection.ofStream stream settings)) _)

theorem down_of_openFailed {h : Hub} {phase : CallerPhase} (hs : h.Still) (e : Error) :
    Down ((h.joined ⟨.link, phase⟩ none).openFailed h.callers.length e) := by
  have hfailed : (h.joined ⟨.link, phase⟩ none).openFailed h.callers.length e =
      Hub.joined { h.tainted e.message with link := .vacant } ⟨.link, .finished (.error e)⟩ none :=
    setCaller_joined (h := { h.tainted e.message with link := .vacant }) _
  rw [hfailed]
  refine ⟨⟨?_, ?_, hs.closers⟩, by simp [joined], Link.noConfusion⟩
  · intro y hy
    rcases List.mem_append.mp hy with hy | hy
    · exact hs.callers y hy
    · rw [List.mem_singleton.mp hy]
      rfl
  · intro y hy
    rw [joined, Option.toList_none, List.append_nil] at hy
    exact hs.drives y hy

/-- The server accepts the password on both sides, or on neither. -/
theorem leads_of_knocking {password : String} (hcheck : settings.check = .ok ())
    (hpassword : settings.password = some password) (hs : stream.Sendable) :
    (∃ c, Connection.connect settings (.accepts stream) = .opened c ∧
      (knocking settings network stream password).Leads
        ((raised settings network c).joined ⟨.link, .claiming⟩ none)) ∨
    (∀ c, Connection.connect settings (.accepts stream) ≠ .opened c) ∧
      ((knocking settings network stream password).Settled ∨
        ∃ h, Down h ∧ (knocking settings network stream password).Leads h) := by
  have hlooks := (still_opening settings network (some (stream.sending
    (Catalog.auth (Argument.ofText password)).command.encode))).looks_of_authenticating .link
  cases hasked : (Connection.ofStream stream settings).asked
    (Catalog.auth (Argument.ofText password)).command with
  | mk intake c =>
    have hconnect := Connection.connect_of_password hcheck hs hpassword hasked
    have hintake : (knocking settings network stream password).intake =
        (intake, { knocking settings network stream password with
          inlet := c.inlet, stream := some c.stream }) := by
      cases hasked
      rfl
    cases ho : intake.outcome? settings.readTimeout with
    | none =>
      rw [ho] at hconnect
      exact .inr ⟨by simp [hconnect], .inl (hlooks.settled hintake ho)⟩
    | some o =>
      rw [ho] at hconnect
      have hleads := hlooks.leads hintake ho
      have hstill : Hub.Still { opening settings network (some c.stream) with inlet := c.inlet } :=
        { still_start settings network with }
      cases o with
      | ok r =>
        cases hunit : Shape.unit.project r with
        | ok v =>
          simp only [hunit] at hconnect
          refine .inl ⟨c, hconnect, ?_⟩
          simp only [answered, hunit] at hleads
          rw [show (raised settings network c).joined ⟨.link, .claiming⟩ none = _ from
            (setCaller_joined (h := raised settings network c) (c := ⟨.link, .authenticating⟩)
              _).symm]
          exact hleads
        | error e =>
          simp only [hunit] at hconnect
          simp only [answered, hunit] at hleads
          exact .inr ⟨by simp [hconnect], .inr ⟨_, down_of_openFailed hstill e, hleads⟩⟩
      | error e =>
        exact .inr ⟨by simp [hconnect], .inr ⟨_, down_of_openFailed hstill e, hleads⟩⟩

/-! ## At the open stream -/

theorem sendable_foldl (hs : stream.Sendable) (hharmless : peers.all Peer.isHarmless) :
    (peers.foldl Stream.undergo stream).Sendable := by
  induction peers generalizing stream with
  | nil => exact hs
  | cons x peers ih =>
    simp only [List.all_cons, Bool.and_eq_true] at hharmless
    exact ih (sendable_undergo hs hharmless.1) hharmless.2

theorem bufferCount_pos (hcheck : settings.check = .ok ()) : 0 < settings.bufferCount := by
  unfold Settings.check at hcheck
  split at hcheck
  · cases hcheck
  · rename_i hbuffers
    omega

/-- Both have come to the open stream. -/
theorem meets_raised (peers : List Peer) (hcheck : settings.check = .ok ()) (hs : stream.Sendable)
    (hconnect : Connection.connect settings (.accepts stream) = .opened c) :
    Meets (raised settings network c) ⟨c, peers, [], []⟩ := by
  obtain ⟨hplain, hclean, hsettings⟩ := Connection.plain_of_connect hcheck hs hconnect
  have hstill := still_start settings network
  refine
    { rests := ⟨⟨⟨hstill.callers, hstill.drives, rfl⟩, ?_⟩, rfl, rfl, rfl, rfl, rfl,
        ⟨_, rfl, hplain.sendable⟩⟩
      plain := hplain
      settings := hsettings
      stream := rfl
      inlet := rfl
      taint := hclean.symm
      pool := fun _ => Pool.full_start (bufferCount_pos hcheck)
      capacity := rfl
      requests := rfl
      outcomes := rfl
      idle := rfl }
  intro done hdone
  cases hdone

/-- Where a procession is: on the way to an open stream, or where some conversation is. -/
def Tracked (settings : Settings) (stream : Stream) (p : Procession) : Prop :=
  Opens settings stream p ∧ p.peers.all Peer.isHarmless ∨
    ∃ peers s, Conversation.open? settings stream peers = some s ∧ Follows s p

/-- Whatever happens on the way to an open stream without the peer. -/
theorem Opens.moves {t : Task} {h' : Hub} (ho : Opens settings stream p)
    (hcheck : settings.check = .ok ()) (hs : stream.Sendable)
    (hharmless : p.peers.all Peer.isHarmless)
    (hstep : p.hub.advance t = some h' ∨ p.hub.expire t = some h') :
    Tracked settings stream ⟨h', p.peers⟩ := by
  have hsendable := sendable_foldl hs hharmless
  have hopened {network : Network} {c : Connection}
      (hconnect : Connection.connect settings (.accepts (p.peers.foldl Stream.undergo stream)) =
        .opened c) :
      Tracked settings stream
        ⟨(raised settings network c).joined ⟨.link, .claiming⟩ none, p.peers⟩ :=
    .inr ⟨p.peers, _, Conversation.open?_eq_some_iff.mpr ⟨hharmless, c, hconnect, rfl⟩,
      (Sim.opened (meets_raised _ hcheck hsendable hconnect)).follows⟩
  cases ho with
  | fresh => exact absurd hstep (still_start _ _).settled.stays
  | failed down => exact absurd hstep down.settled.stays
  | entering =>
    rw [leads_linking.only hstep]
    exact .inl ⟨.linking, hharmless⟩
  | linking =>
    rw [leads_dialing.only hstep]
    exact .inl ⟨.dialing, hharmless⟩
  | dialing =>
    cases hpassword : settings.password with
    | none =>
      rw [(leads_raised hpassword).only hstep]
      exact hopened (Connection.connect_of_no_password hcheck hpassword)
    | some password =>
      rw [(leads_knocking hpassword hsendable).only hstep]
      exact .inl ⟨.authenticating hpassword, hharmless⟩
  | authenticating given =>
    rcases leads_of_knocking hcheck given hsendable with
      ⟨c, hconnect, hleads⟩ | ⟨-, hsettled | ⟨h, hdown, hleads⟩⟩
    · rw [hleads.only hstep]
      exact hopened hconnect
    · exact absurd hstep hsettled.stays
    · rw [hleads.only hstep]
      exact .inl ⟨.failed hdown, hharmless⟩

/-- Opening the stream comes to an end, unless the peer keeps it waiting. -/
theorem Opens.settles (ho : Opens settings stream p) (hcheck : settings.check = .ok ())
    (hs : stream.Sendable) (hharmless : p.peers.all Peer.isHarmless) :
    ∃ h, LeadsTo p.hub h ∧ h.Settled := by
  have hsendable := sendable_foldl hs hharmless
  have hraised {network : Network} {c : Connection}
      (hconnect : Connection.connect settings (.accepts (p.peers.foldl Stream.undergo stream)) =
        .opened c) :
      ∃ h, LeadsTo ((raised settings network c).joined ⟨.link, .claiming⟩ none) h ∧ h.Settled :=
    (Sim.opened (meets_raised p.peers hcheck hsendable hconnect)).settles
  have hknocks {network : Network} {password : String}
      (given : settings.password = some password) :
      ∃ h, LeadsTo (knocking settings network (p.peers.foldl Stream.undergo stream)
        password) h ∧ h.Settled := by
    rcases leads_of_knocking hcheck given hsendable with
      ⟨c, hconnect, hleads⟩ | ⟨-, hsettled | ⟨h, hdown, hleads⟩⟩
    · obtain ⟨h, hrest, hsettled⟩ := hraised hconnect
      exact ⟨h, .head hleads hrest, hsettled⟩
    · exact ⟨_, .refl _, hsettled⟩
    · exact ⟨h, .head hleads (.refl h), hdown.settled⟩
  have hdials : ∃ h, LeadsTo ((opening settings (.accepts (p.peers.foldl Stream.undergo stream))
      none).joined ⟨.link, .dialing⟩ none) h ∧ h.Settled := by
    cases hpassword : settings.password with
    | none =>
      obtain ⟨h, hrest, hsettled⟩ :=
        hraised (Connection.connect_of_no_password hcheck hpassword)
      exact ⟨h, .head (leads_raised hpassword) hrest, hsettled⟩
    | some password =>
      obtain ⟨h, hrest, hsettled⟩ := hknocks hpassword
      exact ⟨h, .head (leads_knocking hpassword hsendable) hrest, hsettled⟩
  obtain ⟨h, hleads, hsettled⟩ := hdials
  cases ho with
  | fresh => exact ⟨_, .refl _, (still_start _ _).settled⟩
  | failed down => exact ⟨_, .refl _, down.settled⟩
  | entering => exact ⟨h, .head leads_linking (.head leads_dialing hleads), hsettled⟩
  | linking => exact ⟨h, .head leads_dialing hleads, hsettled⟩
  | dialing => exact ⟨h, hleads, hsettled⟩
  | authenticating given => exact hknocks given

theorem Tracked.keep {m : Move} (hcheck : settings.check = .ok ()) (hs : stream.Sendable)
    (ht : Tracked settings stream p) (hstep : p.step? m = some p') :
    Tracked settings stream p' := by
  rcases ht with ⟨ho, hharmless⟩ | ⟨peers, s, hopen, s', hreaches, hsim⟩
  · rcases cases_of_step? hstep with ⟨t, h', hmoves, rfl⟩ | ⟨x, hx, rfl⟩ | ⟨errand, hadmits, rfl⟩
    · exact ho.moves hcheck hs hharmless hmoves
    · exact .inl ⟨ho.undergo x, by simp_all⟩
    · exact .inl ⟨ho.enters hadmits, hharmless⟩
  · have hfollows : Follows s' p' := by
      rcases cases_of_step? hstep with
        ⟨t, h', hmoves, rfl⟩ | ⟨x, hx, rfl⟩ | ⟨errand, hadmits, rfl⟩
      · exact hsim.moves hmoves
      · exact hsim.undergo hx
      · exact (hsim.enters hadmits).follows
    obtain ⟨s'', hmore, hsim'⟩ := hfollows
    exact .inr ⟨peers, s, hopen, s'', hreaches.trans Conversation.iterates hmore, hsim'⟩

/-- The peer can do everything that it does before anybody dials. -/
theorem reaches_dialable (settings : Settings) (stream : Stream) (earlier later : List Peer)
    (hharmless : later.all Peer.isHarmless) :
    Reaches run? ⟨dialable settings stream earlier, earlier⟩
      ⟨dialable settings stream (earlier ++ later), earlier ++ later⟩ := by
  induction later generalizing earlier with
  | nil =>
    rw [List.append_nil]
    exact .refl iterates _
  | cons x later ih =>
    simp only [List.all_cons, Bool.and_eq_true] at hharmless
    have hfirst := reaches_undergo ⟨dialable settings stream earlier, earlier⟩ hharmless.1
    have hdialable : (dialable settings stream earlier).onPeer (fun stream => stream.undergo x) =
        dialable settings stream (earlier ++ [x]) := by
      rw [dialable, dialable, foldl_undergo_concat]
      rfl
    rw [hdialable] at hfirst
    have hrest := ih (earlier ++ [x]) hharmless.2
    rw [List.append_assoc, List.singleton_append] at hrest
    exact hfirst.trans iterates hrest

/-- Where a connection is opened, a hub that nobody has used comes to the same. -/
theorem leadsTo_raised (hcheck : settings.check = .ok ())
    (hs : (peers.foldl Stream.undergo stream).Sendable)
    (hconnect : Connection.connect settings (.accepts (peers.foldl Stream.undergo stream)) =
      .opened c) :
    ∃ network, LeadsTo ((dialable settings stream peers).joined ⟨.link, .entering⟩ none)
      ((raised settings network c).joined ⟨.link, .claiming⟩ none) := by
  refine ⟨.accepts (peers.foldl Stream.undergo stream),
    .head leads_linking (.head leads_dialing ?_)⟩
  cases hpassword : settings.password with
  | none =>
    rw [Connection.connect_of_no_password hcheck hpassword] at hconnect
    cases hconnect
    exact .head (leads_raised hpassword) (.refl _)
  | some password =>
    rcases leads_of_knocking hcheck hpassword hs with ⟨c', hconnect', hleads⟩ | ⟨hnot, -⟩
    · cases hconnect.symm.trans hconnect'
      exact .head (leads_knocking hpassword hs) (.head hleads (.refl _))
    · exact absurd hconnect (hnot c)

theorem exists_reaches_of_open (hcheck : settings.check = .ok ()) (hs : stream.Sendable)
    (hopen : Conversation.open? settings stream peers = some s) :
    ∃ p, Reaches run? (start settings stream) p ∧ Matches p s := by
  obtain ⟨hharmless, c, hconnect, rfl⟩ := Conversation.open?_eq_some_iff.mp hopen
  have hsendable := sendable_foldl hs hharmless
  have henters : Reaches run? ⟨dialable settings stream peers, peers⟩
      ⟨(dialable settings stream peers).joined ⟨.link, .entering⟩ none, peers⟩ :=
    reaches_enter rfl
  obtain ⟨network, hraised⟩ := leadsTo_raised hcheck hsendable hconnect
  have hmeets : Meets (raised settings network c) _ :=
    meets_raised peers hcheck hsendable hconnect
  have hreaches := (reaches_dialable settings stream [] peers hharmless).trans iterates henters
  exact ⟨_, (hreaches.trans iterates (reaches_of_leadsTo hraised)).trans iterates
    (reaches_of_leads (leads_welcome hmeets.rests)), .resting hmeets.welcomed (by simp [joined])⟩

theorem Tracked.ends (ht : Tracked settings stream p) (hcheck : settings.check = .ok ())
    (hs : stream.Sendable) : Ends p := by
  have hsettles : ∃ h, LeadsTo p.hub h ∧ h.Settled := by
    rcases ht with ⟨ho, hharmless⟩ | ⟨_, _, _, _, _, hsim⟩
    · exact ho.settles hcheck hs hharmless
    · exact hsim.settles
  obtain ⟨h, hleads, hsettled⟩ := hsettles
  exact ends_of_leadsTo hleads hsettled

/-- Whatever comes of calls that are made on a hub one after the other comes of them on a
    connection, and the other way round; and on a hub as on a connection, something does come of
    them unless the peer keeps them waiting. Where the peer has done everything before it is
    dialled, there is only one thing that can come of them. -/
theorem agrees_with_conversation (settings : Settings) (stream : Stream)
    (hcheck : settings.check = .ok ()) (hs : stream.Sendable) :
    (∀ moves p, (start settings stream).run? moves = some p →
      Ends p ∧ (p.hub.Settled → p.hub.link = .up →
        ∃ peers s₀ events s, Conversation.open? settings stream peers = some s₀ ∧
          s₀.run? events = some s ∧ Agrees p s ∧
          (p.peers = [] → s = p.hub.requests.foldl Conversation.call s₀))) ∧
    (∀ peers s₀ events s, Conversation.open? settings stream peers = some s₀ →
      s₀.run? events = some s →
      ∃ moves p, (start settings stream).run? moves = some p ∧
        p.hub.Settled ∧ p.hub.link = .up ∧ Agrees p s) := by
  constructor
  · intro moves p hrun
    have hfresh : Opens settings stream (start settings stream) :=
      @Opens.fresh settings stream []
    have htracked : Tracked settings stream p :=
      iterates.always (fun ht hstep => ht.keep hcheck hs hstep) (.inl ⟨hfresh, rfl⟩) hrun
    refine ⟨htracked.ends hcheck hs, fun hsettled hup => ?_⟩
    rcases htracked with ⟨ho, -⟩ | ⟨peers, s₀, hopen, s, hreaches, hsim⟩
    · exact absurd hup ho.link_ne
    · obtain ⟨s', hmore, hagrees⟩ := hsim.agrees hsettled
      obtain ⟨events, hevents⟩ := hreaches.trans Conversation.iterates hmore
      refine ⟨peers, s₀, events, s', hopen, hevents, hagrees, fun hsilent => ?_⟩
      obtain ⟨-, c, -, rfl⟩ := Conversation.open?_eq_some_iff.mp hopen
      have hpeers : s'.peers = [] := hagrees.peers.symm.trans hsilent
      obtain ⟨qs, hrequests, hfold⟩ := Conversation.eq_foldl_of_run hevents (by simp [hpeers])
      rw [hagrees.requests, hrequests]
      exact hfold
  · intro peers s₀ events s hopen hrun
    have hmatches : ∃ p, Reaches run? (start settings stream) p ∧ Matches p s := by
      refine Conversation.iterates.always
        (P := fun s => ∃ p, Reaches run? (start settings stream) p ∧ Matches p s) ?_
        (exists_reaches_of_open hcheck hs hopen) hrun
      rintro s s' e ⟨p, hreaches, hm⟩ hstep
      obtain ⟨p', hmore, hm'⟩ := hm.follows hstep
      exact ⟨p', hreaches.trans iterates hmore, hm'⟩
    obtain ⟨p, ⟨moves, hmoves⟩, hm⟩ := hmatches
    obtain ⟨hsettled, hup, hagrees⟩ := hm.settled
    exact ⟨moves, p, hmoves, hsettled, hup, hagrees⟩

/-- Settings with a password. -/
def guarded : Settings := { Settings.default with password := some "p" }

/-- A peer that lets the client in, answers once, and then sends what is no frame. -/
def trouble : Stream := Stream.greeting [43, 79, 75, 13, 10, 58, 49, 13, 10, 38, 13, 10]

/-- The stream is opened, and three calls are made: one is answered, one fails, and one is turned
    away. -/
def troubled : List Move :=
  .enter .link :: List.replicate 5 (.step (.caller 0)) ++
    .enter (.call (Catalog.incr [107])) :: List.replicate 6 (.step (.caller 1)) ++
    List.replicate 10 (.step (.drive 0)) ++ .step (.caller 1) ::
    .enter (.call (Catalog.get [107])) :: List.replicate 6 (.step (.caller 2)) ++
    List.replicate 14 (.step (.drive 1)) ++ .step (.caller 2) ::
    [.enter (.call Catalog.ping), .step (.caller 3)]

theorem agrees_with_conversation_troubled :
    (∃ p, (start guarded trouble).run? troubled = some p ∧ p.hub.Settled ∧ p.hub.link = .up ∧
      p.hub.taint = some "protocol error: invalid frame data type: 0x26" ∧
      p.hub.requests = [Catalog.incr [107], Catalog.get [107], Catalog.ping] ∧
      ∃ peers s₀, Conversation.open? guarded trouble peers = some s₀ ∧
        Agrees p
          ([Catalog.incr [107], Catalog.get [107], Catalog.ping].foldl Conversation.call s₀)) ∧
    ∃ s₀ s, Conversation.open? guarded trouble [] = some s₀ ∧
      s₀.run? [.call (Catalog.incr [107]), .call (Catalog.get [107]), .call Catalog.ping] = some s ∧
      s.outcomes.length = 3 ∧
      ∃ moves p, (start guarded trouble).run? moves = some p ∧ p.hub.Settled ∧
        p.hub.link = .up ∧ Agrees p s := by
  obtain ⟨hhub, hconnection⟩ := agrees_with_conversation guarded trouble rfl ⟨rfl, rfl⟩
  constructor
  · have hend : ((start guarded trouble).run? troubled).map (fun p =>
        (p.hub.callers.all (fun c => c.phase.isFinished) && p.hub.drives.all (fun d => d = .done) &&
          p.hub.closers.isEmpty && p.peers.isEmpty, p.hub.link, p.hub.taint, p.hub.requests)) =
        some (true, .up, some "protocol error: invalid frame data type: 0x26",
          [Catalog.incr [107], Catalog.get [107], Catalog.ping]) := by
      decide +kernel
    obtain ⟨p, hrun, hp⟩ := Option.map_eq_some_iff.mp hend
    simp only [Prod.mk.injEq, Bool.and_eq_true, List.all_eq_true, decide_eq_true_eq,
      List.isEmpty_iff] at hp
    obtain ⟨⟨⟨⟨hcallers, hdrives⟩, hclosers⟩, hsilent⟩, hup, htaint, hrequests⟩ := hp
    have hsettled : p.hub.Settled := Still.settled ⟨hcallers, hdrives, hclosers⟩
    obtain ⟨peers, s₀, events, s, hopen, -, hagrees, hcalls⟩ :=
      (hhub troubled p hrun).2 hsettled hup
    rw [hcalls hsilent, hrequests] at hagrees
    exact ⟨p, hrun, hsettled, hup, htaint, hrequests, peers, s₀, hopen, hagrees⟩
  · have hend : ((Conversation.open? guarded trouble []).bind fun s₀ =>
        s₀.run? [.call (Catalog.incr [107]), .call (Catalog.get [107]), .call Catalog.ping]).map
          (fun s => s.outcomes.length) = some 3 := by
      decide +kernel
    obtain ⟨s, hs, hlength⟩ := Option.map_eq_some_iff.mp hend
    obtain ⟨s₀, hopen, hrun⟩ := Option.bind_eq_some_iff.mp hs
    exact ⟨s₀, s, hopen, hrun, hlength, hconnection [] s₀ _ s hopen hrun⟩

end Procession

end RespLink
