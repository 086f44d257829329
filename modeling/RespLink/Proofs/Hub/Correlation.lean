import RespLink.Proofs.Hub.Steps
import RespLink.Proofs.Hub.Taint
import RespLink.Proofs.Run

/-!
# Correlation — whose reply is whose

Nothing ties a reply to a command but the order in which both come. Here is what that order is
worth: in every world that can be reached from the start, whatever the callers, drives, closers
and the peer do and in whichever order, and as long as nobody has tainted the hub, commands are on
the wire as they were entered, the unanswered ones are queued as they were written, and the frame
that is read next completes the command that was written first.
-/

namespace RespLink

open Hub

/-- A stream that dialling leads to and that nobody has used. -/
def Network.Fresh (network : Network) : Prop :=
  ∀ s, network = .accepts s → s.sent = [] ∧ s.arrived = []

namespace World

variable {w : World}

/-- What it means that replies belong to their commands. -/
structure Correlated (w : World) : Prop where
  /-- Before the stream is up there is nothing but the greeting on it. -/
  greeting : ∀ s, w.hub.stream = some s → w.hub.link ≠ .up →
    s.sent <+: Command.encodeAll w.hub.settings.greeting
  /-- After the greeting come the commands that were entered, in that order and each in full
      before the next, so that at most the last one is unfinished. -/
  wire : ∀ s, w.hub.stream = some s → w.hub.link = .up → ∃ n last,
    s.sent = Command.encodeAll w.hub.settings.greeting
      ++ Command.encodeAll ((w.entered.take n).map Ticket.command) ++ last ∧
    (last = [] ∨ ∃ t, w.entered[n]? = some t ∧ last <+: t.command.encode)
  /-- What was taken and is not on the stream, the holder of the writer has still to send, unless
      nothing can be sent any more. -/
  unsent : ∀ s, w.hub.stream = some s → s.shut ∨ s.broken ∨
    s.sent ++ unsent w.hub.writer w.hub.drives = Command.encodeAll w.asked
  /-- Commands are taken in the order in which they were entered. -/
  taken : w.entered = w.taken ++ w.hub.unwritten
  /-- The command that the holder of the reader has in hand, and behind it the queue of unanswered
      ones, are those that were taken and for which no frame was read, in the order of the wire. -/
  queue : inHand w.hub.reader w.hub.drives ++ w.hub.unanswered = w.taken.drop w.frames.length
  /-- Nobody else has a command in hand. -/
  inHand : ∀ (j : Nat) (p : DrivePhase) (t : Ticket), w.hub.drives[j]? = some p →
    p.inHand? = some t → w.hub.reader = some j
  /-- The frames are the answers of the server to the commands, in order. -/
  frames : w.frames <+: (w.answers.drop w.hub.settings.greeting.length).map Answer.reply
  /-- Each of them was read when so many commands had been written in full. -/
  written : w.frames ≠ [] → w.frames.length ≤ w.taken.length ∧ ∃ s, w.hub.stream = some s ∧
    Command.encodeAll w.hub.settings.greeting
      ++ Command.encodeAll ((w.taken.take w.frames.length).map Ticket.command) <+: s.sent
  /-- The frames have completed the commands of the same number, and nothing else is complete. -/
  completions : w.hub.completions = List.zipWith completion w.taken w.frames
  /-- Each command was entered by its caller, and by no other. -/
  owner : ∀ (k : Nat) (t : Ticket), w.taken[k]? = some t → (∃ q phase,
    w.hub.callers[t.caller]? = some ⟨.call q, phase⟩ ∧ q.command = t.command) ∧
    w.hub.completion? t.caller = w.frames[k]?.map .ok
  /-- A caller that has ended with a reply got the frame of its own command. -/
  told : ∀ (i : Nat) (errand : Errand) (r : Reply),
    w.hub.callers[i]? = some ⟨errand, .finished (.ok (some r))⟩ →
    ∃ (k : Nat) (t : Ticket), w.taken[k]? = some t ∧ t.caller = i ∧ w.frames[k]? = some r

/-! ## Runs -/

theorem clean_of_step {w' : World} {e : Event} (hstep : w.step? e = some w')
    (hclean : w'.hub.taint = none) : w.hub.taint = none := by
  cases e with
  | move m =>
    simp only [step?] at hstep
    split at hstep
    · obtain ⟨h', hmove, rfl⟩ := Option.map_eq_some_iff.mp hstep
      rw [hub_note] at hclean
      exact taint_none_of_step? hmove hclean
    · cases hstep
  | answer a =>
    simp only [step?] at hstep
    split at hstep
    · cases hstep
      exact hclean
    · cases hstep

theorem iterates : Iterates step? run? where
  nil _ := rfl
  cons w e events := by
    rw [run?]
    cases w.step? e <;> rfl

theorem Orderly.start {settings : Settings} {network : Network} (hfresh : network.Fresh) :
    (start settings network).Orderly where
  closers := by intro c hc; cases hc
  drives := by intro j p hj; cases hj
  opening :=
    { alone := by intro i c hc; cases hc
      dialing := by intro i c hc; cases hc
      authenticating := by intro i c hc; cases hc
      vacant := fun _ => rfl
      up := by intro h; cases h }
  owned :=
    { owner := by intro t ht; cases ht
      distinct := List.nodup_nil }
  told := by intro i c r hc; cases hc
  queued := ⟨rfl, rfl, Nat.le_refl 0⟩
  wired := by intro s hs; cases hs
  answered := by intro s hs; cases hs
  silent := fun _ => ⟨rfl, rfl⟩
  frames := List.nil_prefix
  completions := rfl
  fresh := hfresh
  linked := fun h => absurd rfl h

theorem Orderly.run {w' : World} {events : List Event} (hw : w.Orderly)
    (hrun : w.run? events = some w') (hclean : w'.hub.taint = none) : w'.Orderly :=
  iterates.keep clean_of_step (fun _ => True) (fun _ hw hstep _ hclean' => hw.step hstep hclean')
    (fun _ _ => trivial) hw hrun hclean

/-! ## Completions -/

theorem find?_zipWith_completion {taken : List Ticket} {frames : List Reply} {k : Nat} {t : Ticket}
    (hdistinct : (taken.map Ticket.caller).Nodup) (ht : taken[k]? = some t) :
    ((List.zipWith completion taken frames).find? fun done => done.1 == t.caller).map Prod.snd
      = frames[k]?.map .ok := by
  induction taken generalizing frames k with
  | nil => cases ht
  | cons first taken ih =>
    rw [List.map_cons, List.nodup_cons] at hdistinct
    cases frames with
    | nil => rfl
    | cons r frames =>
      cases k with
      | zero =>
        rw [List.getElem?_cons_zero, Option.some.injEq] at ht
        subst ht
        simp [completion]
      | succ k =>
        rw [List.getElem?_cons_succ] at ht
        -- the first command is another caller's
        have hother : first.caller ≠ t.caller := by
          intro heq
          exact hdistinct.1 (List.mem_map.mpr ⟨t, List.mem_of_getElem? ht, heq.symm⟩)
        rw [List.zipWith_cons_cons, List.find?_cons_of_neg (by simpa [completion] using hother),
          List.getElem?_cons_succ]
        exact ih hdistinct.2 ht

theorem exists_of_find?_zipWith_completion {taken : List Ticket} {frames : List Reply} {i : Nat}
    {r : Reply}
    (h : ((List.zipWith completion taken frames).find? fun done => done.1 == i).map Prod.snd
      = some (.ok r)) :
    ∃ (k : Nat) (t : Ticket), taken[k]? = some t ∧ t.caller = i ∧ frames[k]? = some r := by
  obtain ⟨done, hfind, hr⟩ := Option.map_eq_some_iff.mp h
  obtain ⟨k, hk⟩ := List.mem_iff_getElem?.mp (List.mem_of_find?_eq_some hfind)
  rw [List.getElem?_zipWith_eq_some] at hk
  obtain ⟨t, r', ht, hr', rfl⟩ := hk
  have hi := List.find?_some hfind
  cases hr
  exact ⟨k, t, ht, beq_iff_eq.mp hi, hr'⟩

/-! ## Correlation -/

theorem Orderly.correlated (hw : w.Orderly) : w.Correlated := by
  have hasked : Command.encodeAll w.asked
      = Command.encodeAll w.hub.settings.greeting
        ++ Command.encodeAll (w.taken.map Ticket.command) := Command.encodeAll_append _ _
  have hfront : w.taken <+: w.entered := ⟨w.hub.unwritten, hw.queued.entered.symm⟩
  constructor
  case greeting =>
    intro s hs hup
    obtain ⟨-, rest, hrest, -⟩ := hw.wired s hs
    rw [hasked, hw.taken_nil hup, List.map_nil, Command.encodeAll_nil, List.append_nil] at hrest
    exact ⟨rest, hrest⟩
  case wire =>
    intro s hs hup
    obtain ⟨⟨wire, hwire⟩, rest, hrest, -⟩ := hw.wired s hs
    rw [← hwire, hasked, List.append_assoc, List.append_cancel_left_eq] at hrest
    have htaken : wire <+: Command.encodeAll (w.entered.map Ticket.command) :=
      List.IsPrefix.trans ⟨rest, hrest⟩ (Command.encodeAll_prefix (hfront.map _))
    -- what is on the stream ends somewhere in the commands, maybe within one
    obtain ⟨n, last, hcut, hlast⟩ := Command.exists_cut_of_prefix htaken
    refine ⟨n, last, ?_, hlast.imp_right ?_⟩
    · rw [← hwire, hcut, ← List.map_take, List.append_assoc]
    · rintro ⟨c, hc, hl⟩
      rw [List.getElem?_map, Option.map_eq_some_iff] at hc
      obtain ⟨t, ht, rfl⟩ := hc
      exact ⟨t, ht, hl⟩
  case unsent =>
    intro s hs
    obtain ⟨-, rest, hrest, hlast⟩ := hw.wired s hs
    refine hlast.imp_right (Or.imp_right fun hlast => ?_)
    rw [← hlast, hrest]
  case taken => exact hw.queued.entered
  case queue => exact hw.queued.unread
  case inHand =>
    intro j p t hj ht
    apply (hw.drives j p hj).reads
    cases p with
    | reading t' => rfl
    | failing stage reason owed =>
      obtain ⟨owing, howed, -⟩ := Option.map_eq_some_iff.mp ht
      simp [DrivePhase.reads, howed]
    | _ => cases ht
  case frames => exact hw.frames
  case written =>
    intro hframes
    have hup : w.hub.link = .up :=
      Decidable.byContradiction fun hup => hframes (hw.frames_nil hup)
    obtain ⟨s, hs⟩ := Option.isSome_iff_exists.mp (hw.opening.up hup)
    have hanswered := hw.answered s hs
    refine ⟨hw.queued.short, s, hs, List.IsPrefix.trans ?_ hanswered.received⟩
    -- what was read was answered, and what is answered has reached the server
    have hread : w.hub.settings.greeting.length + w.frames.length ≤ w.answers.length := by
      simpa [readCount, hup] using hanswered.read_le
    rw [← Command.encodeAll_append]
    apply Command.encodeAll_prefix
    have htake : w.asked.take (w.hub.settings.greeting.length + w.frames.length)
        = w.hub.settings.greeting ++ (w.taken.take w.frames.length).map Ticket.command := by
      rw [asked, List.take_length_add_append, List.map_take]
    rw [← htake]
    exact List.take_prefix_take_left hread
  case completions => exact hw.completions
  case owner =>
    intro k t ht
    have hentered : t ∈ w.entered := hfront.subset (List.mem_of_getElem? ht)
    obtain ⟨q, phase, hc, hq, -⟩ := hw.owned.owner t hentered
    refine ⟨⟨q, phase, hc, hq⟩, ?_⟩
    have hdistinct : (w.taken.map Ticket.caller).Nodup :=
      List.Nodup.sublist (hfront.map _).sublist hw.owned.distinct
    rw [Hub.completion?, hw.completions]
    exact find?_zipWith_completion hdistinct ht
  case told =>
    intro i errand r hc
    apply exists_of_find?_zipWith_completion
    rw [← hw.completions]
    exact hw.told i _ r hc rfl

/-- Whatever happens, as long as nobody has tainted the hub, replies belong to their commands. -/
theorem correlated_of_run {settings : Settings} {network : Network} {events : List Event}
    (hfresh : network.Fresh) (hrun : (World.start settings network).run? events = some w)
    (hclean : w.hub.taint = none) : w.Correlated :=
  ((Orderly.start hfresh).run hrun hclean).correlated

/-- Two callers share a stream that was opened with a password. The one that entered first goes
    away; the drive of the other one writes its command and reads the reply, and meanwhile the
    other command is written as well. -/
def crossing : List Event :=
  let caller (i steps : Nat) := List.replicate steps (Event.move (.step (.caller i)))
  let drive (j steps : Nat) := List.replicate steps (Event.move (.step (.drive j)))
  [.move (.enter (.call Catalog.ping)), .move (.enter (.call (Catalog.get [107])))]
    ++ caller 0 3 ++ caller 1 2
    ++ [.answer ⟨.status "OK", [43, 79, 75, 13, 10], rfl⟩, .move (.receive [43, 79, 75, 13, 10])]
    ++ caller 0 5 ++ caller 1 5 ++ [.move (.leave 0)] ++ drive 1 9
    ++ [.answer .pong, .move (.receive [43, 80])]
    ++ drive 0 4 ++ [.move (.receive [79, 78, 71, 13, 10])] ++ drive 1 1

theorem correlated_of_run_crossing : ∃ settings network w, Network.Fresh network ∧
    (World.start settings network).run? crossing = some w ∧ w.hub.taint = none ∧
    w.frames = [.status "PONG"] ∧ w.Correlated := by
  have hfresh : (Network.accepts (Stream.greeting [])).Fresh := by
    intro s hs
    cases hs
    exact ⟨rfl, rfl⟩
  have hend : ((World.start { Settings.default with password := some "s" }
      (.accepts (Stream.greeting []))).run? crossing).map (fun w => (w.hub.taint, w.frames))
      = some (none, [.status "PONG"]) := by decide +kernel
  obtain ⟨w, hrun, hw⟩ := Option.map_eq_some_iff.mp hend
  rw [Prod.mk.injEq] at hw
  exact ⟨_, _, w, hfresh, hrun, hw.1, hw.2, correlated_of_run hfresh hrun hw.1⟩

end World

end RespLink
