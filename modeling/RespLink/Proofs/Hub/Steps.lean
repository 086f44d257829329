import RespLink.Proofs.Hub.Moves
import RespLink.Proofs.Hub.Order

/-!
# Steps — nothing that can happen disturbs the order

One lemma for each of those who can move: callers, drives, closers, whoever goes away, the peer,
and the server. In each, most of what `World.Orderly` says is about fields that the step does not
touch; what is written out is the rest. The peer is looked at more closely than `Hub.Moved` does,
since what arrives has to be what the server has said.
-/

namespace RespLink

open Hub

namespace World

variable {w : World} {h' : Hub} {i j : Nat} {c : Caller} {p p' : DrivePhase}

theorem hub_note (w : World) (o : Option Occurrence) : (w.note o).hub = w.hub := by
  cases o with
  | none => rfl
  | some o => cases o <;> rfl

/-! ## Before the stream is up -/

namespace Orderly

theorem taken_nil (hw : w.Orderly) (hlink : w.hub.link ≠ .up) : w.taken = [] := by
  cases htaken : w.taken with
  | nil => rfl
  | cons t taken => exact absurd (hw.linked (by simp [htaken])) hlink

theorem frames_nil (hw : w.Orderly) (hlink : w.hub.link ≠ .up) : w.frames = [] := by
  have hshort := hw.queued.short
  rw [hw.taken_nil hlink] at hshort
  exact List.eq_nil_of_length_eq_zero (Nat.le_zero.mp hshort)

theorem unsent_nil (hw : w.Orderly) (hlink : w.hub.link ≠ .up) :
    unsent w.hub.writer w.hub.drives = [] := by
  refine unsent_eq_nil fun k p hk => ?_
  cases p with
  | writing slices => exact absurd ((hw.drives k _ hk).begun rfl) hlink
  | _ => rfl

theorem not_up (hw : w.Orderly) (hc : w.hub.callers[i]? = some c) (hopens : c.phase.opens) :
    w.hub.link ≠ .up := by
  simp [hw.opening.alone i c hc hopens]

theorem readCount_zero (hw : w.Orderly) (hlink : w.hub.link ≠ .up) : w.readCount = 0 := by
  simp [readCount, hlink, hw.frames_nil hlink]

end Orderly

theorem Wired.greet {greeting : List Command} {taken : List Ticket} {writer : Option Nat}
    {drives : List DrivePhase} {s : Stream} (htaken : taken = [])
    (hunsent : unsent writer drives = []) (hsent : s.sent = Command.encodeAll greeting) :
    Wired (greeting ++ taken.map Ticket.command) greeting writer drives s := by
  subst htaken
  refine ⟨by simp [hsent], [], ?_, Or.inr (Or.inr hunsent.symm)⟩
  rw [hsent]
  simp

theorem Answered.start {asked : List Command} {limit : Nat} {s : Stream}
    (harrived : s.arrived = []) :
    Answered asked 0 (Inlet.start limit) [] [] s := by
  refine ⟨?_, ?_, Nat.zero_le _, Nat.le_refl _⟩
  · simp [Inlet.unread, Inlet.start, Decoder.empty, harrived]
  · simp

/-! ## Callers -/

theorem occurrence?_caller {h : Hub} (hc : h.callers[i]? = some c)
    (hhold : ∀ buffer, c.phase ≠ .holding buffer) : h.occurrence? (.step (.caller i)) = none := by
  obtain ⟨errand, phase⟩ := c
  cases phase with
  | holding buffer => exact absurd rfl (hhold buffer)
  | _ => simp [Hub.occurrence?, hc]

theorem Orderly.begins (hw : w.Orderly) (hc : w.hub.callers[i]? = some c)
    (hpast : c.phase.isPast = false) (hlink : w.hub.link = .vacant) :
    Orderly { w with hub := w.hub.beginOpening i } := by
  have hup : w.hub.link ≠ .up := by simp [hlink]
  -- where the link is vacant there is neither a stream nor anybody who opens one
  have hnone := hw.opening.vacant hlink
  have hnobody := hw.opening.nobody (by simp [hlink])
  exact { hw with
    drives := hw.drives.relink hup
    opening := .replace (fun k c _ => hnobody k c) (fun _ => rfl) (fun _ => hnone) (by simp)
      (by intro h; cases h) (by intro h; cases h)
    owned := hw.owned.move hc (fun h => absurd h (by simp [hpast]))
    told := hw.told.move (by simp)
    answered := fun s hs => absurd (hnone.symm.trans hs) (by simp)
    linked := fun htaken => absurd (hw.linked htaken) hup }

theorem Orderly.dials {errand : Errand} {s : Stream} (hw : w.Orderly)
    (hc : w.hub.callers[i]? = some ⟨errand, .dialing⟩) (hnet : w.hub.network = .accepts s)
    (hpass : w.hub.settings.password = none) :
    Orderly { w with
      hub := ({ w.hub with
        stream := some s, inlet := Inlet.start w.hub.settings.maxFrameSize }).opened i } := by
  have hup := hw.not_up hc rfl
  -- as long as somebody dials there is no stream, and a server that has said nothing
  obtain ⟨hanswers, hunderway⟩ := hw.silent (hw.opening.dialing i _ hc rfl)
  obtain ⟨hsent, harrived⟩ := hw.fresh s hnet
  have hgreeting : w.hub.settings.greeting = [] := by simp [Settings.greeting, hpass]
  have hwired : Wired w.asked w.hub.settings.greeting w.hub.writer w.hub.drives s :=
    .greet (hw.taken_nil hup) (hw.unsent_nil hup) (by rw [hsent, hgreeting]; rfl)
  exact { hw with
    drives := hw.drives.relink hup
    opening := .replace (hw.opening.others hc rfl) (by intro h; cases h) (by simp) (by simp)
      (by intro h; cases h) (fun _ => rfl)
    owned := hw.owned.move hc (by intro h; cases h)
    told := hw.told.move (by simp)
    wired := by
      intro s' hs
      cases hs
      exact hwired
    answered := by
      intro s' hs
      cases hs
      show Answered w.asked (w.hub.settings.greeting.length + w.frames.length) _ w.answers
        w.underway s
      rw [hgreeting, hw.frames_nil hup, hanswers, hunderway]
      exact .start harrived
    silent := by intro h; cases h
    linked := fun _ => rfl }

theorem Orderly.greets {errand : Errand} {s s' : Stream} {password : String} (hw : w.Orderly)
    (hc : w.hub.callers[i]? = some ⟨errand, .dialing⟩) (hnet : w.hub.network = .accepts s)
    (hpass : w.hub.settings.password = some password)
    (hsend : s.send (Catalog.auth (Argument.ofText password)).command.encode = .ok s') :
    Orderly { w with
      hub := ({ w.hub with
        stream := some s', inlet := Inlet.start w.hub.settings.maxFrameSize }).setCaller i
          .authenticating } := by
  have hup := hw.not_up hc rfl
  have hlink := hw.opening.alone i _ hc rfl
  obtain ⟨hanswers, hunderway⟩ := hw.silent (hw.opening.dialing i _ hc rfl)
  obtain ⟨hsent, harrived⟩ := hw.fresh s hnet
  obtain ⟨-, rfl⟩ := Stream.send_ok hsend
  have hpassword : w.hub.settings.password.isSome := by simp [hpass]
  have hwired : Wired w.asked w.hub.settings.greeting w.hub.writer w.hub.drives
      { s with sent := s.sent ++ (Catalog.auth (Argument.ofText password)).command.encode } :=
    .greet (hw.taken_nil hup) (hw.unsent_nil hup) (by simp [Settings.greeting, hpass, hsent])
  exact { hw with
    opening := .replace (hw.opening.others hc rfl) (fun _ => hlink) (by simp) (fun _ => hpassword)
      (fun h => absurd (hlink.symm.trans h) (by simp)) (fun _ => rfl)
    owned := hw.owned.move hc (by intro h; cases h)
    told := hw.told.move (by simp)
    wired := by
      intro s'' hs
      cases hs
      exact hwired
    answered := by
      intro s'' hs
      cases hs
      show Answered w.asked w.readCount _ w.answers w.underway _
      rw [hw.readCount_zero hup, hanswers, hunderway]
      exact .start harrived
    silent := by intro h; cases h }

/-- A caller reads that the password is right, and the stream is up. -/
theorem Orderly.welcomed {errand : Errand} {r : Reply} (hw : w.Orderly)
    (hc : w.hub.callers[i]? = some ⟨errand, .authenticating⟩)
    (hi : w.hub.intake = (.frame r, h')) : Orderly { w with hub := h'.opened i } := by
  have hup := hw.not_up hc rfl
  have hgreeting : w.hub.settings.greeting.length = 1 := by
    obtain ⟨password, hpass⟩ := Option.isSome_iff_exists.mp (hw.opening.authenticating i _ hc rfl)
    simp [Settings.greeting, hpass]
  obtain ⟨s, arrived, inlet, hs, rfl, hread⟩ := exists_of_intake_frame hi
  -- the frame is the answer to the password, the first that anybody reads
  obtain ⟨hanswered, -⟩ := (hw.answered s hs).reads hread rfl
  rw [hw.readCount_zero hup] at hanswered
  exact { hw with
    drives := hw.drives.relink hup
    opening := .replace (hw.opening.others hc rfl) (by intro h; cases h) (by simp) (by simp)
      (by intro h; cases h) (fun _ => rfl)
    owned := hw.owned.move hc (by intro h; cases h)
    told := hw.told.move (by simp)
    wired := by
      intro s' hs'
      cases hs'
      exact (hw.wired s hs).same rfl rfl id id
    answered := by
      intro s' hs'
      cases hs'
      show Answered w.asked (w.hub.settings.greeting.length + w.frames.length) _ _ _ _
      rw [hgreeting, hw.frames_nil hup]
      exact hanswered
    silent := by intro h; cases h
    linked := fun _ => rfl }

theorem Orderly.caller (hw : w.Orderly) (hc : w.hub.callers[i]? = some c)
    (hstep : CallerStep w.hub i c h') (hclean : h'.taint = none) :
    ({ w with hub := h' }.note (w.hub.occurrence? (.step (.caller i)))).Orderly := by
  cases hstep with
  | moves pool phase hhold hopens hphase hpast htold =>
    rw [occurrence?_caller hc hhold]
    exact { hw with
      opening := hw.opening.move hphase
      owned := hw.owned.move hc hpast
      told := hw.told.move htold }
  | begins hhold hopens hpast hlink =>
    rw [occurrence?_caller hc hhold]
    exact hw.begins hc hpast hlink
  | fails e stream inlet hopens =>
    -- whoever fails to open the stream taints the hub
    cases hclean
  | dials hnet hpass =>
    rw [occurrence?_caller hc (by simp)]
    exact hw.dials hc hnet hpass
  | greets hnet hpass hsend =>
    rw [occurrence?_caller hc (by simp)]
    exact hw.greets hc hnet hpass hsend
  | welcomed stream inlet hi hr =>
    rw [occurrence?_caller hc (by simp)]
    exact hw.welcomed hc hi
  | @enters q buffer =>
    have hocc : w.hub.occurrence? (.step (.caller i)) = some (.entered ⟨i, q.command⟩) := by
      simp [Hub.occurrence?, hc]
    rw [hocc]
    exact { hw with
      opening := hw.opening.move rfl
      owned := hw.owned.enters hc
      told := hw.told.move (by simp)
      queued := hw.queued.enters ⟨i, q.command⟩ }
  | @starts errand buffer =>
    rw [occurrence?_caller hc (by simp)]
    exact { hw with
      drives := hw.drives.append_starting buffer
      opening := hw.opening.move rfl
      owned := hw.owned.move hc (fun _ => rfl)
      told := hw.told.move (by simp)
      queued := hw.queued.relock (inHand_append_starting buffer)
      wired := fun s hs => (hw.wired s hs).same (unsent_append_starting buffer) rfl id id }

/-! ## Drives -/

/-- A drive moves on, and maybe takes or leaves a lock, without having anything to send or a
    command in hand that it did not have before. -/
theorem Orderly.relock {pool : Pool} {writer reader : Option Nat} (hw : w.Orderly)
    (hfits : p'.Fits w.hub.link writer reader j)
    (hwriter : ∀ k, k ≠ j → w.hub.writer = some k → writer = some k)
    (hreader : ∀ k, k ≠ j → w.hub.reader = some k → reader = some k)
    (hhand : inHand reader (w.hub.drives.set j p') = inHand w.hub.reader w.hub.drives)
    (hunsent : unsent writer (w.hub.drives.set j p') = unsent w.hub.writer w.hub.drives) :
    Orderly { w with hub := ({ w.hub with pool, writer, reader }).setDrive j p' } :=
  { hw with
    drives := hw.drives.set hfits hwriter hreader
    queued := hw.queued.relock hhand
    wired := fun s hs => (hw.wired s hs).same hunsent rfl id id }

theorem Orderly.onward {pool : Pool} (hw : w.Orderly) (hj : w.hub.drives[j]? = some p)
    (hfits : p'.Fits w.hub.link w.hub.writer w.hub.reader j) (hhand : p'.inHand? = p.inHand?)
    (hunsent : p'.unsent = p.unsent) :
    Orderly { w with hub := ({ w.hub with pool }).setDrive j p' } :=
  hw.relock hfits (fun _ _ h => h) (fun _ _ h => h) (inHand_set hj hhand) (unsent_set hj hunsent)

/-- A drive reads no frame. What it looked at stays unread. -/
theorem Orderly.readFailed {t : Ticket} {e : Error} {intake : Intake} (hw : w.Orderly)
    (hj : w.hub.drives[j]? = some (.reading t)) (hi : w.hub.intake = (intake, h'))
    (hnone : ∀ r, intake ≠ .frame r) : Orderly { w with hub := h'.readFailed j t e } := by
  have hfits := hw.drives j _ hj
  have hup := hfits.begun rfl
  rcases w.hub.intake_cases with ⟨hs, -⟩ | ⟨s, arrived, intake', inlet, hs, hsome, hlooked⟩
  · -- a drive that reads has found the stream up, so there is one
    have hsome := hw.opening.up hup
    rw [hs] at hsome
    cases hsome
  · rw [hsome] at hi
    cases hi
    exact { hw with
      drives := hw.drives.set (.reading rfl (hfits.reads rfl) hup rfl)
        (fun _ _ h => h) (fun _ _ h => h)
      opening := hw.opening.restream hs
      queued := hw.queued.relock (inHand_set hj rfl)
      wired := by
        intro s' hs'
        cases hs'
        exact (hw.wired s hs).same (unsent_set hj rfl) rfl id id
      answered := by
        intro s' hs'
        cases hs'
        exact (hw.answered s hs).same (hlooked.other hnone) (List.prefix_refl _)
      silent := by intro h; cases h }

/-- A drive that has nothing to send lets go of the writer. -/
theorem Orderly.leaveWriter (hw : w.Orderly) (hj : w.hub.drives[j]? = some p) (hp : p.writes)
    (hunsent : p.unsent = []) (hhand : p.inHand? = none) {next : Afterwards} :
    Orderly { w with hub := w.hub.releaseWriter j (.shelving next) } := by
  have hfits := hw.drives j p hj
  have hwriter := hfits.writes hp
  have hold : unsent w.hub.writer w.hub.drives = [] := by
    rw [hwriter, unsent_of_holder hj, hunsent]
  have hbegun : p.begun := by
    cases p with
    | starting buffer => cases hp
    | _ => rfl
  refine hw.relock (.unlocked rfl rfl (hfits.begun hbegun) rfl) (held_only_by hwriter)
    (fun _ _ h => h) (inHand_set hj hhand.symm) ?_
  rw [hold]
  rfl

theorem Orderly.takes {buffer : Bytes} {t : Ticket} {rest : List Ticket} (hw : w.Orderly)
    (hj : w.hub.drives[j]? = some (.choosing buffer)) (ht : w.hub.unwritten = t :: rest) :
    Orderly { w with
      hub := ({ w.hub with
        unwritten := rest, unanswered := w.hub.unanswered ++ [t] }).setDrive j
          (.writing (Transfer.write w.hub.pool.capacity buffer t.command).slices)
      taken := w.taken ++ [t] } := by
  have hfits := hw.drives j _ hj
  have hwriter := hfits.writes rfl
  have hqueued := hw.queued
  rw [ht] at hqueued
  have hasked : w.hub.settings.greeting ++ (w.taken ++ [t]).map Ticket.command
      = w.asked ++ [t.command] := by
    simp [asked]
  have hold : unsent w.hub.writer w.hub.drives = [] := by
    rw [hwriter, unsent_of_holder hj]
    rfl
  exact { hw with
    drives := hw.drives.set (.writing hwriter rfl (hfits.begun rfl) rfl)
      (fun _ _ h => h) (fun _ _ h => h)
    queued := hqueued.takes (inHand_set hj rfl)
    wired := by
      intro s hs
      show Wired (w.hub.settings.greeting ++ (w.taken ++ [t]).map Ticket.command) _ _ _ s
      rw [hasked]
      apply (hw.wired s hs).takes hold
      -- however it is sliced, what the drive has to send now is the command
      show unsent w.hub.writer (w.hub.drives.set j _) = _
      rw [hwriter, unsent_set_self hj]
      exact Transfer.write_flatten _ _ _
    answered := by
      intro s hs
      show Answered (w.hub.settings.greeting ++ (w.taken ++ [t]).map Ticket.command) _ _ _ _ s
      rw [hasked]
      exact (hw.answered s hs).takes t.command
    completions := by
      show w.hub.completions = _
      rw [zipWith_concat_left completion t hw.queued.short]
      exact hw.completions
    linked := fun _ => hfits.begun rfl }

/-- A drive takes the first unanswered command, to read the frame that completes it. -/
theorem Orderly.fetches {t : Ticket} {rest : List Ticket} (hw : w.Orderly)
    (hj : w.hub.drives[j]? = some .matching) (ht : w.hub.unanswered = t :: rest) :
    Orderly { w with
      hub := ({ w.hub with unanswered := rest }).setDrive j (.reading t) } := by
  have hfits := hw.drives j _ hj
  have hreader := hfits.reads rfl
  have hold : inHand w.hub.reader w.hub.drives = [] := by
    rw [hreader, inHand_of_holder hj]
    rfl
  have hqueued := hw.queued
  rw [ht] at hqueued
  exact { hw with
    drives := hw.drives.set (.reading rfl hreader (hfits.begun rfl) rfl)
      (fun _ _ h => h) (fun _ _ h => h)
    queued := by
      apply hqueued.fetches hold
      show inHand w.hub.reader (w.hub.drives.set j _) = _
      rw [hreader, inHand_set_self hj]
      rfl
    wired := fun s hs => (hw.wired s hs).same (unsent_set hj rfl) rfl id id }

/-- A drive reads the frame that completes the command it has in hand. -/
theorem Orderly.reads {t : Ticket} {r : Reply} (hw : w.Orderly)
    (hj : w.hub.drives[j]? = some (.reading t)) (hi : w.hub.intake = (.frame r, h')) :
    Orderly { w with
      hub := (h'.complete t (.ok r)).releaseReader j
      frames := w.frames ++ [r] } := by
  have hfits := hw.drives j _ hj
  have hup := hfits.begun rfl
  have hreader := hfits.reads rfl
  have hhand : inHand w.hub.reader w.hub.drives = [t] := by
    rw [hreader, inHand_of_holder hj]
    rfl
  obtain ⟨s, arrived, inlet, hs, rfl, hread⟩ := exists_of_intake_frame hi
  have hcount : w.readCount = w.hub.settings.greeting.length + w.frames.length := by
    simp [readCount, hup]
  have hcount' : World.readCount { w with frames := w.frames ++ [r] } = w.readCount + 1 := by
    simp [readCount, Nat.add_assoc]
  obtain ⟨hanswered, a, tail, hdrop, ha⟩ := (hw.answered s hs).reads hread rfl
  have hnext : ((w.answers.drop w.hub.settings.greeting.length).map Answer.reply).drop
      w.frames.length = r :: tail.map Answer.reply := by
    rw [← List.map_drop, List.drop_drop, ← hcount, hdrop, List.map_cons, ha]
  have hframes := concat_prefix_of_drop hw.frames hnext
  exact { hw with
    drives := hw.drives.set (.unlocked rfl rfl hup rfl) (fun _ _ h => h) (held_only_by hreader)
    opening := hw.opening.restream hs
    told := hw.told.concat (completion t r)
    queued := hw.queued.reads hhand rfl
    wired := by
      intro s' hs'
      cases hs'
      exact (hw.wired s hs).same (unsent_set hj rfl) rfl id id
    answered := by
      intro s' hs'
      cases hs'
      show Answered _ (World.readCount { w with frames := w.frames ++ [r] }) _ _ _ _
      rw [hcount']
      exact hanswered
    silent := by intro h; cases h
    frames := hframes
    completions := by
      show w.hub.completions ++ [completion t r] = _
      -- the command in hand is the next one after those that have been answered
      rw [hw.completions, zipWith_concat_right completion r (hw.queued.next hhand)]
    linked := fun _ => hup }

theorem Orderly.sends {slice : Bytes} {rest : List Bytes} {s s' : Stream} (hw : w.Orderly)
    (hj : w.hub.drives[j]? = some (.writing (slice :: rest))) (hs : w.hub.stream = some s)
    (hsend : s.send slice = .ok s') :
    Orderly { w with hub := ({ w.hub with stream := some s' }).setDrive j (.writing rest) } := by
  have hfits := hw.drives j _ hj
  have hwriter := hfits.writes rfl
  have hup := hfits.begun rfl
  have hunsent : unsent w.hub.writer w.hub.drives
      = slice ++ unsent w.hub.writer (w.hub.drives.set j (.writing rest)) := by
    rw [hwriter, unsent_of_holder hj, unsent_set_self hj]
    rfl
  have hwired := (hw.wired s hs).sends hsend hunsent
  obtain ⟨-, rfl⟩ := Stream.send_ok hsend
  exact { hw with
    drives := hw.drives.set (.writing hwriter rfl hup rfl) (fun _ _ h => h)
      (fun _ _ h => h)
    opening := hw.opening.restream hs
    queued := hw.queued.relock (inHand_set hj rfl)
    wired := by
      intro s'' hs''
      cases hs''
      exact hwired
    answered := by
      intro s'' hs''
      cases hs''
      exact (hw.answered s hs).same rfl (List.prefix_append _ _)
    silent := by intro h; cases h }

/-- A drive cannot send the rest of its command. Nor can anybody after it. -/
theorem Orderly.sticks {slice : Bytes} {rest : List Bytes} {s : Stream} {fault : StreamFault}
    {next : Afterwards} (hw : w.Orderly) (hj : w.hub.drives[j]? = some (.writing (slice :: rest)))
    (hs : w.hub.stream = some s) (hsend : s.send slice = .error fault) :
    Orderly { w with hub := w.hub.releaseWriter j (.shelving next) } := by
  have hfits := hw.drives j _ hj
  have hwriter := hfits.writes rfl
  exact { hw with
    drives := hw.drives.set (.unlocked rfl rfl (hfits.begun rfl) rfl) (held_only_by hwriter)
      (fun _ _ h => h)
    queued := hw.queued.relock (inHand_set hj rfl)
    wired := by
      intro s' hs'
      cases hs.symm.trans hs'
      exact (hw.wired s hs).sticks hsend }

/-- Only a drive that takes a command, or reads, does what is noted. -/
theorem occurrence?_drive {h : Hub} (hj : h.drives[j]? = some p)
    (hchoosing : ∀ buffer, p ≠ .choosing buffer) (hreading : ∀ t, p ≠ .reading t) :
    h.occurrence? (.step (.drive j)) = none := by
  cases p with
  | choosing buffer => exact absurd rfl (hchoosing buffer)
  | reading t => exact absurd rfl (hreading t)
  | _ => simp [Hub.occurrence?, hj]

theorem occurrence?_drive_reading {h : Hub} {t : Ticket} (hj : h.drives[j]? = some (.reading t))
    (hnone : ∀ r, h.intake.1 ≠ .frame r) : h.occurrence? (.step (.drive j)) = none := by
  simp [Hub.occurrence?, hj]

theorem Orderly.drive (hw : w.Orderly) (hj : w.hub.drives[j]? = some p)
    (hstep : DriveStep w.hub j p h') (hclean : h'.taint = none) :
    ({ w with hub := h' }.note (w.hub.occurrence? (.step (.drive j)))).Orderly := by
  have hfits := hw.drives j p hj
  -- a drive that has tainted the hub would not fit
  have hharmless := hfits.harmless
  cases hstep with
  | refused ht => exact absurd (ht.symm.trans hclean) (by simp)
  | begins ht hup =>
    rw [occurrence?_drive hj (by simp) (by simp)]
    exact hw.onward hj (.unlocked rfl rfl hup rfl) rfl rfl
  | locksWriter hfree =>
    rw [occurrence?_drive hj (by simp) (by simp)]
    have hold : unsent w.hub.writer w.hub.drives = [] := by rw [hfree]; rfl
    refine hw.relock (.writing rfl rfl (hfits.begun rfl) rfl) (held_by_nobody hfree)
      (fun _ _ h => h) (inHand_set hj rfl) ?_
    rw [hold, unsent_set_self hj]
    rfl
  | findsNothing hnil =>
    have hnone : w.hub.occurrence? (.step (.drive j)) = none := by
      simp [Hub.occurrence?, hj, hnil]
    rw [hnone]
    exact hw.leaveWriter hj rfl rfl rfl
  | @takes buffer t rest ht =>
    have hsome : w.hub.occurrence? (.step (.drive j)) = some (.taken t) := by
      simp [Hub.occurrence?, hj, ht]
    rw [hsome]
    exact hw.takes hj ht
  | hasWritten =>
    rw [occurrence?_drive hj (by simp) (by simp)]
    exact hw.leaveWriter hj rfl rfl rfl
  | sends hs hsend =>
    rw [occurrence?_drive hj (by simp) (by simp)]
    exact hw.sends hj hs hsend
  | sticks reason hfault =>
    rw [occurrence?_drive hj (by simp) (by simp)]
    obtain ⟨s, hs⟩ := Option.isSome_iff_exists.mp (hw.opening.up (hfits.begun rfl))
    obtain ⟨fault, hsend⟩ := hfault s hs
    exact hw.sticks hj hs hsend
  | shelves =>
    rw [occurrence?_drive hj (by simp) (by simp)]
    exact hw.onward hj (.unlocked rfl rfl (hfits.begun rfl) rfl) rfl rfl
  | @returns next =>
    rw [occurrence?_drive hj (by simp) (by simp)]
    cases next <;> exact hw.onward hj (.unlocked rfl rfl (hfits.begun rfl) rfl) rfl rfl
  | locksReader hfree =>
    rw [occurrence?_drive hj (by simp) (by simp)]
    have hold : inHand w.hub.reader w.hub.drives = [] := by rw [hfree]; rfl
    refine hw.relock (.reading rfl rfl (hfits.begun rfl) rfl) (fun _ _ h => h)
      (held_by_nobody hfree) ?_ (unsent_set hj rfl)
    rw [hold, inHand_set_self hj]
    rfl
  | missesAll hnil =>
    rw [occurrence?_drive hj (by simp) (by simp)]
    have hreader := hfits.reads rfl
    have hold : inHand w.hub.reader w.hub.drives = [] := by
      rw [hreader, inHand_of_holder hj]
      rfl
    refine hw.relock (.unlocked rfl rfl (hfits.begun rfl) rfl) (fun _ _ h => h)
      (held_only_by hreader) ?_ (unsent_set hj rfl)
    rw [hold]
    rfl
  | fetches ht =>
    rw [occurrence?_drive hj (by simp) (by simp)]
    exact hw.fetches hj ht
  | @completes t r stream inlet hi =>
    have hsome : w.hub.occurrence? (.step (.drive j)) = some (.read r) := by
      simp [Hub.occurrence?, hj, hi]
    rw [hsome]
    exact hw.reads hj hi
  | fails e stream inlet hi hnone =>
    rw [occurrence?_drive_reading hj (hi ▸ hnone)]
    exact hw.readFailed hj hi hnone
  | taints => cases hclean
  | _ => cases hharmless

/-! ## Closers and leaving -/

theorem Orderly.closer {k : Nat} {phase : CloserPhase} (hw : w.Orderly)
    (hk : w.hub.closers[k]? = some phase) (hstep : CloserStep w.hub k phase h')
    (hclean : h'.taint = none) : Orderly { w with hub := h' } := by
  -- all a closer can do first is to taint the hub
  have hphase := hw.closers phase (List.mem_of_getElem? hk)
  subst hphase
  cases hstep
  cases hclean

theorem Orderly.leaves (hw : w.Orderly) (hc : w.hub.callers[i]? = some c)
    (hopens : c.phase.opens = false) (pool : Pool) :
    ({ w with hub := ({ w.hub with pool }).setCaller i .gone }.note
      (w.hub.occurrence? (.leave i))).Orderly := by
  have hnone : w.hub.occurrence? (.leave i) = none := by
    obtain ⟨errand, phase⟩ := c
    cases phase with
    | dialing | authenticating => cases hopens
    | _ => simp [Hub.occurrence?, hc]
  rw [hnone]
  exact { hw with
    opening := hw.opening.move rfl
    owned := hw.owned.move hc (fun _ => rfl)
    told := hw.told.move (by simp) }

/-- The stream goes with whoever was opening it, and no command has been taken for it yet. -/
theorem Orderly.hangsUp (hw : w.Orderly) (hc : w.hub.callers[i]? = some c)
    (hopens : c.phase.opens) :
    ({ w with hub := ({ w.hub with link := .vacant, stream := none }).setCaller i .gone }.note
      (w.hub.occurrence? (.leave i))).Orderly := by
  have hsome : w.hub.occurrence? (.leave i) = some .hungUp := by
    obtain ⟨errand, phase⟩ := c
    cases phase with
    | dialing | authenticating => simp [Hub.occurrence?, hc]
    | _ => cases hopens
  have hup := hw.not_up hc hopens
  rw [hsome]
  exact { hw with
    drives := hw.drives.relink hup
    opening := .replace (hw.opening.others hc hopens) (by intro h; cases h) (by simp) (by simp)
      (fun _ => rfl) (by intro h; cases h)
    owned := hw.owned.move hc (fun _ => rfl)
    told := hw.told.move (by simp)
    wired := by intro s hs; cases hs
    answered := by intro s hs; cases hs
    silent := fun _ => ⟨rfl, rfl⟩
    frames := by
      show w.frames <+: _
      rw [hw.frames_nil hup]
      exact List.nil_prefix
    linked := fun htaken => absurd (hw.taken_nil hup) htaken }

/-! ## The peer and the server -/

/-- The peer does something that neither sends nor takes back bytes. -/
theorem Orderly.onPeer {f : Stream → Stream} (hw : w.Orderly) (hsent : ∀ s, (f s).sent = s.sent)
    (harrived : ∀ s, (f s).arrived = s.arrived) (hshut : ∀ s : Stream, s.shut → (f s).shut)
    (hbroken : ∀ s : Stream, s.broken → (f s).broken) :
    Orderly { w with hub := w.hub.onPeer f } := by
  unfold Hub.onPeer
  split
  · rename_i s hs
    exact { hw with
      opening := hw.opening.restream hs
      wired := by
        intro s' hs'
        cases hs'
        exact (hw.wired s hs).same rfl (hsent s) (hshut s) (hbroken s)
      answered := by
        intro s' hs'
        cases hs'
        refine (hw.answered s hs).same ?_ ?_
        · simp only [Inlet.unread, harrived]
        · exact hsent s ▸ List.prefix_refl s.sent
      silent := by simp }
  · rename_i s hs hnet
    exact { hw with
      fresh := by
        intro s' hs'
        cases hs'
        rw [hsent, harrived]
        exact hw.fresh s hnet }
  · exact hw

theorem Orderly.receive {bytes : Bytes} (hw : w.Orderly) (hbytes : bytes <+: w.underway) :
    Orderly { w with
      hub := w.hub.onPeer fun s => s.receive bytes
      underway := w.underway.drop bytes.length } := by
  cases hs : w.hub.stream with
  | none =>
    -- nothing is under way where there is no stream
    have hnil : bytes = [] := by
      rw [(hw.silent hs).2] at hbytes
      exact List.prefix_nil.mp hbytes
    subst hnil
    exact hw.onPeer (f := fun s => s.receive []) (fun _ => rfl) (fun _ => List.append_nil _)
      (fun _ h => h) (fun _ h => h)
  | some s =>
    simp only [Hub.onPeer, hs]
    exact { hw with
      opening := hw.opening.restream hs
      wired := by
        intro s' hs'
        cases hs'
        exact (hw.wired s hs).same rfl rfl id id
      answered := by
        intro s' hs'
        cases hs'
        exact (hw.answered s hs).arrives hbytes
      silent := by simp }

theorem Orderly.answer {a : Answer} (hw : w.Orderly) (hreached : w.reached (w.answers.length + 1)) :
    Orderly { w with answers := w.answers ++ [a], underway := w.underway ++ a.bytes } := by
  unfold reached at hreached
  split at hreached
  · cases hreached
  · rename_i s hs
    rw [Bool.and_eq_true, decide_eq_true_eq, List.isPrefixOf_iff_prefix] at hreached
    exact { hw with
      answered := by
        intro s' hs'
        cases hs.symm.trans hs'
        exact (hw.answered s hs).answer a hreached.1 hreached.2
      silent := fun hnone => absurd (hs.symm.trans hnone) (by simp)
      frames := by
        apply hw.frames.trans
        rw [List.map_drop, List.map_drop, List.map_append, List.drop_append]
        exact List.prefix_append _ _ }

/-! ## Everything that can happen -/

theorem Orderly.move {m : Move} (hw : w.Orderly) (hadmits : w.admits m)
    (hstep : w.hub.step? m = some h') (hclean : h'.taint = none) :
    ({ w with hub := h' }.note (w.hub.occurrence? m)).Orderly := by
  cases m with
  | enter errand =>
    cases hstep
    exact { hw with
      opening := hw.opening.enter errand
      owned := hw.owned.enter errand
      told := hw.told.enter errand }
  | close =>
    cases hstep
    exact { hw with
      closers := by
        intro p hp
        rcases List.mem_append.mp hp with hp | hp
        · exact hw.closers p hp
        · exact List.mem_singleton.mp hp }
  | step task =>
    cases moved_of_step? hstep with
    | caller hc hcaller => exact hw.caller hc hcaller hclean
    | closer hk hcloser => exact hw.closer hk hcloser hclean
    | drive hj hdrive => exact hw.drive hj hdrive hclean
    | peer stream network hsame hpeer => cases hpeer
  | expire task =>
    cases moved_of_step? hstep with
    | callerExpires => cases hclean
    | driveExpires hj hdrive hnone =>
      have hnext := hw.drive hj hdrive hclean
      rw [occurrence?_drive_reading hj hnone] at hnext
      exact hnext
    | peer stream network hsame hpeer => cases hpeer
  | leave i =>
    cases moved_of_step? hstep with
    | leaves pool hc hopens => exact hw.leaves hc hopens pool
    | hangsUp hc hopens => exact hw.hangsUp hc hopens
    | peer stream network hsame hpeer => cases hpeer
  | receive bytes =>
    cases hstep
    exact hw.receive (List.isPrefixOf_iff_prefix.mp hadmits)
  | finish =>
    cases hstep
    exact hw.onPeer (fun _ => rfl) (fun _ => rfl) (fun _ h => h) (fun _ h => h)
  | sever =>
    cases hstep
    exact hw.onPeer (fun _ => rfl) (fun _ => rfl) (fun _ h => h) (fun _ _ => rfl)

theorem Orderly.step {w' : World} {e : Event} (hw : w.Orderly) (hstep : w.step? e = some w')
    (hclean : w'.hub.taint = none) : w'.Orderly := by
  cases e with
  | move m =>
    simp only [step?] at hstep
    split at hstep
    · rename_i hadmits
      obtain ⟨h', hmove, rfl⟩ := Option.map_eq_some_iff.mp hstep
      rw [hub_note] at hclean
      exact hw.move hadmits hmove hclean
    · cases hstep
  | answer a =>
    simp only [step?] at hstep
    split at hstep
    · rename_i hreached
      cases hstep
      exact hw.answer hreached
    · cases hstep

end World

end RespLink
