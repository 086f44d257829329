import RespLink.Proofs.Hub.Callers
import RespLink.Proofs.Hub.World

/-!
# Order — what holds in a world as long as nobody has tainted the hub

`World.Orderly` says how the queues, the wire and the answers of the server are connected: what
was entered is what was taken and what is still unwritten, what is on the wire is what was taken
but for the end of the last command, and what can still be read are the answers from the one on
that nobody has read yet. None of this would last by itself. It lasts because only the holder of
a lock acts on what the lock is for, and because whoever opens the stream is alone in that.

Taint ends it, and never goes away again; so every statement is about steps after which the hub is
not tainted.
-/

namespace RespLink

open Hub

/-! ## Lists -/

theorem zipWith_concat_left {α β γ : Type} (f : α → β → γ) {l : List α} {m : List β} (a : α)
    (h : m.length ≤ l.length) : List.zipWith f (l ++ [a]) m = List.zipWith f l m := by
  rw [zipWith_snoc_left, List.getElem?_eq_none h]
  exact List.append_nil _

theorem zipWith_concat_right {α β γ : Type} (f : α → β → γ) {l rest : List α} {m : List β} {a : α}
    (b : β) (h : l.drop m.length = a :: rest) :
    List.zipWith f l (m ++ [b]) = List.zipWith f l m ++ [f a b] := by
  rw [zipWith_snoc_right, getElem?_of_drop h]
  rfl

namespace World

/-! ## What holds -/

/-- Whoever opens the stream is alone in that, and there is a stream where there should be. -/
structure Opening (link : Link) (stream : Option Stream) (password : Option String)
    (callers : List Caller) : Prop where
  alone : ∀ (i : Nat) (c : Caller), callers[i]? = some c → c.phase.opens → link = .opening i
  dialing : ∀ (i : Nat) (c : Caller), callers[i]? = some c → c.phase = .dialing → stream = none
  authenticating : ∀ (i : Nat) (c : Caller), callers[i]? = some c → c.phase = .authenticating →
    password.isSome
  vacant : link = .vacant → stream = none
  up : link = .up → stream.isSome

/-- Each command that was entered is that of one caller, who has entered no other. -/
structure Owned (callers : List Caller) (entered : List Ticket) : Prop where
  owner : ∀ t ∈ entered, ∃ q phase, callers[t.caller]? = some ⟨.call q, phase⟩ ∧
    q.command = t.command ∧ phase.isPast
  distinct : (entered.map Ticket.caller).Nodup

/-- A caller that has ended with a reply was told so when its command was completed. -/
def Told (completions : List (Nat × Except Error Reply)) (callers : List Caller) : Prop :=
  ∀ (i : Nat) (c : Caller) (r : Reply), callers[i]? = some c →
    c.phase = .finished (.ok (some r)) →
    (completions.find? fun done => done.1 == i).map Prod.snd = some (.ok r)

/-- The queues hold what was entered and not taken, and what was taken and not read. -/
structure Queued (reader : Option Nat) (drives : List DrivePhase)
    (unwritten unanswered entered taken : List Ticket) (frames : List Reply) : Prop where
  entered : entered = taken ++ unwritten
  unread : inHand reader drives ++ unanswered = taken.drop frames.length
  short : frames.length ≤ taken.length

/-- What was sent is the commands that belong on the stream, but for what the holder of the
    writer has still to send, or what will never be sent because nothing can be. -/
structure Wired (asked greeting : List Command) (writer : Option Nat) (drives : List DrivePhase)
    (s : Stream) : Prop where
  greeted : Command.encodeAll greeting <+: s.sent
  rest : ∃ rest, s.sent ++ rest = Command.encodeAll asked ∧
    (s.shut ∨ s.broken ∨ rest = unsent writer drives)

/-- What can still be read are the answers but the first `read` ones, and only commands that have
    reached the server are answered. -/
structure Answered (asked : List Command) (read : Nat) (inlet : Inlet) (answers : List Answer)
    (underway : Bytes) (s : Stream) : Prop where
  unread : inlet.unread s ++ underway = spell (answers.drop read)
  received : Command.encodeAll (asked.take answers.length) <+: s.sent
  count : answers.length ≤ asked.length
  read_le : read ≤ answers.length

/-- How a frame completes a command. -/
def completion (t : Ticket) (r : Reply) : Nat × Except Error Reply := (t.caller, .ok r)

/-- What holds in a world as long as nobody has tainted the hub. -/
structure Orderly (w : World) : Prop where
  closers : ∀ p ∈ w.hub.closers, p = .failing .taint
  drives : Placed w.hub.link w.hub.writer w.hub.reader w.hub.drives
  opening : Opening w.hub.link w.hub.stream w.hub.settings.password w.hub.callers
  owned : Owned w.hub.callers w.entered
  told : Told w.hub.completions w.hub.callers
  queued : Queued w.hub.reader w.hub.drives w.hub.unwritten w.hub.unanswered w.entered w.taken
    w.frames
  wired : ∀ s, w.hub.stream = some s →
    Wired w.asked w.hub.settings.greeting w.hub.writer w.hub.drives s
  answered : ∀ s, w.hub.stream = some s →
    Answered w.asked w.readCount w.hub.inlet w.answers w.underway s
  silent : w.hub.stream = none → w.answers = [] ∧ w.underway = []
  frames : w.frames <+: (w.answers.drop w.hub.settings.greeting.length).map Answer.reply
  completions : w.hub.completions = List.zipWith completion w.taken w.frames
  fresh : ∀ s, w.hub.network = .accepts s → s.sent = [] ∧ s.arrived = []
  linked : w.taken ≠ [] → w.hub.link = .up

/-! ## Callers -/

namespace Opening

variable {link link' : Link} {stream stream' : Option Stream} {password : Option String}
  {callers : List Caller} {i : Nat} {phase : CallerPhase}

theorem enter (h : Opening link stream password callers) (errand : Errand) :
    Opening link stream password (callers ++ [⟨errand, .entering⟩]) := by
  refine ⟨Alone.enter h.alone errand, ?_, ?_, h.vacant, h.up⟩
  · intro k c hc hdialing
    rcases getElem?_concat_cases hc with hc | ⟨-, rfl⟩
    · exact h.dialing k c hc hdialing
    · cases hdialing
  · intro k c hc hauth
    rcases getElem?_concat_cases hc with hc | ⟨-, rfl⟩
    · exact h.authenticating k c hc hauth
    · cases hauth

/-- A caller moves to where it does not open the stream. -/
theorem move (h : Opening link stream password callers) (hphase : phase.opens = false) :
    Opening link stream password (callers.modify i fun c => { c with phase }) := by
  refine ⟨Alone.move h.alone hphase, ?_, ?_, h.vacant, h.up⟩
  · intro k c hc hdialing
    rcases getElem?_modify_cases hc with ⟨-, c', -, rfl⟩ | ⟨-, hc⟩
    · cases hdialing
      cases hphase
    · exact h.dialing k c hc hdialing
  · intro k c hc hauth
    rcases getElem?_modify_cases hc with ⟨-, c', -, rfl⟩ | ⟨-, hc⟩
    · cases hauth
      cases hphase
    · exact h.authenticating k c hc hauth

/-- A caller does something about the stream while nobody else does. -/
theorem replace (hothers : ∀ (k : Nat) (c : Caller), k ≠ i → callers[k]? = some c →
      c.phase.opens = false)
    (halone : phase.opens → link' = .opening i) (hdialing : phase = .dialing → stream' = none)
    (hauth : phase = .authenticating → password.isSome) (hvacant : link' = .vacant → stream' = none)
    (hup : link' = .up → stream'.isSome) :
    Opening link' stream' password (callers.modify i fun c => { c with phase }) := by
  refine ⟨Alone.replace hothers halone, ?_, ?_, hvacant, hup⟩
  · intro k c hc hphase
    rcases getElem?_modify_cases hc with ⟨rfl, c', -, rfl⟩ | ⟨hk, hc⟩
    · exact hdialing hphase
    · exact absurd (hothers k c hk hc) (by simp [hphase, CallerPhase.opens])
  · intro k c hc hphase
    rcases getElem?_modify_cases hc with ⟨rfl, c', -, rfl⟩ | ⟨hk, hc⟩
    · exact hauth hphase
    · exact absurd (hothers k c hk hc) (by simp [hphase, CallerPhase.opens])

theorem others (h : Opening link stream password callers) {c : Caller}
    (hc : callers[i]? = some c) (hopens : c.phase.opens) (k : Nat) (c' : Caller) (hk : k ≠ i)
    (hc' : callers[k]? = some c') : c'.phase.opens = false :=
  Alone.others h.alone hc hopens k c' hk hc'

theorem nobody (h : Opening link stream password callers) (hlink : ∀ k, link ≠ .opening k)
    (k : Nat) (c : Caller) (hc : callers[k]? = some c) : c.phase.opens = false :=
  Alone.nobody h.alone hlink k c hc

/-- A stream that is there may change in what it holds. -/
theorem restream {s s' : Stream} (h : Opening link stream password callers) (hs : stream = some s) :
    Opening link (some s') password callers := by
  subst hs
  refine ⟨h.alone, ?_, h.authenticating, ?_, fun _ => rfl⟩
  · intro k c hc hdialing
    exact absurd (h.dialing k c hc hdialing) (by simp)
  · intro hvacant
    exact absurd (h.vacant hvacant) (by simp)

end Opening

namespace Owned

variable {callers : List Caller} {entered : List Ticket} {i : Nat} {c : Caller}
  {phase : CallerPhase}

theorem enter (h : Owned callers entered) (errand : Errand) :
    Owned (callers ++ [⟨errand, .entering⟩]) entered := by
  refine ⟨?_, h.distinct⟩
  intro t ht
  obtain ⟨q, phase, hc, hq, hpast⟩ := h.owner t ht
  obtain ⟨hlt, -⟩ := List.getElem?_eq_some_iff.mp hc
  exact ⟨q, phase, by rw [List.getElem?_append_left hlt, hc], hq, hpast⟩

theorem move (h : Owned callers entered) (hc : callers[i]? = some c)
    (hphase : c.phase.isPast → phase.isPast) :
    Owned (callers.modify i fun c => { c with phase }) entered := by
  refine ⟨?_, h.distinct⟩
  intro t ht
  obtain ⟨q, phase', hc', hq, hpast⟩ := h.owner t ht
  rw [List.getElem?_modify]
  by_cases hi : i = t.caller
  · rw [hi, hc', Option.some.injEq] at hc
    subst hc
    exact ⟨q, phase, by simp [hi, hc'], hq, hphase hpast⟩
  · exact ⟨q, phase', by simp [hi, hc'], hq, hpast⟩

theorem enters {q : Request} {buffer buffer' : Bytes} (h : Owned callers entered)
    (hc : callers[i]? = some ⟨.call q, .holding buffer⟩) :
    Owned (callers.modify i fun c => { c with phase := .entered buffer' })
      (entered ++ [⟨i, q.command⟩]) := by
  have hmoved : Owned (callers.modify i fun c => { c with phase := .entered buffer' }) entered :=
    h.move hc fun _ => rfl
  constructor
  · intro t ht
    rcases List.mem_append.mp ht with ht | ht
    · exact hmoved.owner t ht
    · rw [List.mem_singleton] at ht
      subst ht
      exact ⟨q, .entered buffer', by simp [hc], rfl, rfl⟩
  · -- whoever entered a command before is past the point where caller `i` is
    have hnew : i ∉ entered.map Ticket.caller := by
      intro hmem
      obtain ⟨t, ht, hti⟩ := List.mem_map.mp hmem
      obtain ⟨q', phase, hc', -, hpast⟩ := h.owner t ht
      rw [hti, hc] at hc'
      cases hc'
      cases hpast
    rw [List.map_append, List.nodup_append]
    refine ⟨h.distinct, by simp, ?_⟩
    intro a ha b hb hab
    rw [List.map_singleton, List.mem_singleton] at hb
    rw [hab, hb] at ha
    exact hnew ha

end Owned

namespace Told

variable {completions : List (Nat × Except Error Reply)} {callers : List Caller} {i : Nat}
  {phase : CallerPhase}

theorem enter (h : Told completions callers) (errand : Errand) :
    Told completions (callers ++ [⟨errand, .entering⟩]) := by
  intro k c r hc hphase
  rcases getElem?_concat_cases hc with hc | ⟨-, rfl⟩
  · exact h k c r hc hphase
  · cases hphase

theorem move (h : Told completions callers)
    (hphase : ∀ r, phase = .finished (.ok (some r)) →
      (completions.find? fun done => done.1 == i).map Prod.snd = some (.ok r)) :
    Told completions (callers.modify i fun c => { c with phase }) := by
  intro k c r hc hfinished
  rcases getElem?_modify_cases hc with ⟨rfl, c', -, rfl⟩ | ⟨-, hc⟩
  · exact hphase r hfinished
  · exact h k c r hc hfinished

theorem concat (h : Told completions callers) (done : Nat × Except Error Reply) :
    Told (completions ++ [done]) callers := by
  intro k c r hc hphase
  have hfound := h k c r hc hphase
  rw [Option.map_eq_some_iff] at hfound
  obtain ⟨found, hfind, hr⟩ := hfound
  rw [List.find?_append, hfind, Option.some_or, Option.map_some, hr]

end Told

/-! ## Queues -/

namespace Queued

variable {reader reader' : Option Nat} {drives drives' : List DrivePhase}
  {unwritten unanswered entered taken : List Ticket} {frames : List Reply}

theorem enters (h : Queued reader drives unwritten unanswered entered taken frames) (t : Ticket) :
    Queued reader drives (unwritten ++ [t]) unanswered (entered ++ [t]) taken frames :=
  ⟨by rw [h.entered, List.append_assoc], h.unread, h.short⟩

theorem relock (h : Queued reader drives unwritten unanswered entered taken frames)
    (hhand : inHand reader' drives' = inHand reader drives) :
    Queued reader' drives' unwritten unanswered entered taken frames :=
  ⟨h.entered, by rw [hhand, h.unread], h.short⟩

/-- The oldest unwritten command becomes the last unanswered one. -/
theorem takes {t : Ticket}
    (h : Queued reader drives (t :: unwritten) unanswered entered taken frames)
    (hhand : inHand reader' drives' = inHand reader drives) :
    Queued reader' drives' unwritten (unanswered ++ [t]) entered (taken ++ [t]) frames := by
  constructor
  · rw [h.entered, List.append_assoc, List.singleton_append]
  · rw [hhand, ← List.append_assoc, h.unread, List.drop_append_of_le_length h.short]
  · rw [List.length_append]
    exact Nat.le_add_right_of_le h.short

/-- The first unanswered command goes to the holder of the reader, who had none. -/
theorem fetches {t : Ticket}
    (h : Queued reader drives unwritten (t :: unanswered) entered taken frames)
    (hold : inHand reader drives = []) (hnew : inHand reader' drives' = [t]) :
    Queued reader' drives' unwritten unanswered entered taken frames := by
  refine ⟨h.entered, ?_, h.short⟩
  have hunread := h.unread
  rw [hold, List.nil_append] at hunread
  rw [hnew, List.singleton_append, hunread]

/-- The command in hand is the next one that a frame is read for. -/
theorem next {t : Ticket} (h : Queued reader drives unwritten unanswered entered taken frames)
    (hhand : inHand reader drives = [t]) : taken.drop frames.length = t :: unanswered := by
  rw [← h.unread, hhand, List.singleton_append]

theorem reads {t : Ticket} {r : Reply}
    (h : Queued reader drives unwritten unanswered entered taken frames)
    (hold : inHand reader drives = [t]) (hnew : inHand reader' drives' = []) :
    Queued reader' drives' unwritten unanswered entered taken (frames ++ [r]) := by
  obtain ⟨hdrop, hlt⟩ := drop_succ_of_drop (h.next hold)
  refine ⟨h.entered, ?_, ?_⟩
  · rw [hnew, List.nil_append, List.length_append, List.length_singleton, hdrop]
  · rw [List.length_append, List.length_singleton]
    exact hlt

end Queued

/-! ## The wire -/

namespace Wired

variable {asked greeting : List Command} {writer writer' : Option Nat}
  {drives drives' : List DrivePhase} {s s' : Stream}

/-- What is on the wire stays, and so does what can become of the stream. -/
theorem same (h : Wired asked greeting writer drives s)
    (hunsent : unsent writer' drives' = unsent writer drives) (hsent : s'.sent = s.sent)
    (hshut : s.shut → s'.shut) (hbroken : s.broken → s'.broken) :
    Wired asked greeting writer' drives' s' := by
  obtain ⟨hgreeted, rest, hrest, hlast⟩ := h
  rw [← hsent] at hgreeted hrest
  refine ⟨hgreeted, rest, hrest, ?_⟩
  rw [hunsent]
  exact hlast.imp hshut (Or.imp_left hbroken)

/-- A command is taken by the holder of the writer, who had nothing to send. -/
theorem takes (h : Wired asked greeting writer drives s) {c : Command}
    (hold : unsent writer drives = []) (hnew : unsent writer' drives' = c.encode) :
    Wired (asked ++ [c]) greeting writer' drives' s := by
  obtain ⟨hgreeted, rest, hrest, hlast⟩ := h
  refine ⟨hgreeted, rest ++ c.encode, ?_, ?_⟩
  · rw [← List.append_assoc, hrest, Command.encodeAll_append, Command.encodeAll_singleton]
  · rw [hnew]
    refine hlast.imp_right (Or.imp_right fun hrest => ?_)
    rw [hrest, hold, List.nil_append]

theorem sends {slice : Bytes} (h : Wired asked greeting writer drives s)
    (hsend : s.send slice = .ok s')
    (hunsent : unsent writer drives = slice ++ unsent writer' drives') :
    Wired asked greeting writer' drives' s' := by
  obtain ⟨hgreeted, rest, hrest, hlast⟩ := h
  obtain ⟨hopen, rfl⟩ := Stream.send_ok hsend
  have hrest' : rest = slice ++ unsent writer' drives' := by
    rcases hlast with hshut | hbroken | hlast
    · exact absurd (Or.inl hshut) hopen
    · exact absurd (Or.inr hbroken) hopen
    · rw [hlast, hunsent]
  refine ⟨hgreeted.trans (List.prefix_append _ _), unsent writer' drives', ?_, Or.inr (Or.inr rfl)⟩
  rw [← hrest, hrest', List.append_assoc]

/-- Nothing can be sent any more, so that it does not matter what is still to send. -/
theorem sticks {slice : Bytes} {fault : StreamFault} (h : Wired asked greeting writer drives s)
    (hsend : s.send slice = .error fault) : Wired asked greeting writer' drives' s := by
  obtain ⟨hgreeted, rest, hrest, -⟩ := h
  exact ⟨hgreeted, rest, hrest, (Stream.send_error hsend).imp_right Or.inl⟩

end Wired

/-! ## Answers -/

namespace Answered

variable {asked : List Command} {read : Nat} {inlet inlet' : Inlet} {answers : List Answer}
  {underway : Bytes} {s s' : Stream}

theorem same (h : Answered asked read inlet answers underway s)
    (hunread : inlet'.unread s' = inlet.unread s) (hsent : s.sent <+: s'.sent) :
    Answered asked read inlet' answers underway s' :=
  ⟨by rw [hunread, h.unread], h.received.trans hsent, h.count, h.read_le⟩

theorem takes (h : Answered asked read inlet answers underway s) (c : Command) :
    Answered (asked ++ [c]) read inlet answers underway s := by
  refine ⟨h.unread, ?_, ?_, h.read_le⟩
  · rw [List.take_append_of_le_length h.count]
    exact h.received
  · rw [List.length_append]
    exact Nat.le_add_right_of_le h.count

/-- A frame that is read is the answer whose turn it is. -/
theorem reads {r : Reply} (h : Answered asked read inlet answers underway s)
    (hr : Reply.read (inlet.unread s) = .ok (r, inlet'.unread s')) (hsent : s'.sent = s.sent) :
    Answered asked (read + 1) inlet' answers underway s' ∧
    ∃ a tail, answers.drop read = a :: tail ∧ a.reply = r := by
  obtain ⟨a, tail, hdrop, ha, hrest⟩ := exists_answer_of_read h.unread hr
  obtain ⟨htail, hlt⟩ := drop_succ_of_drop hdrop
  refine ⟨⟨?_, ?_, h.count, hlt⟩, a, tail, hdrop, ha⟩
  · rw [hrest, htail]
  · rw [hsent]
    exact h.received

theorem arrives {bytes : Bytes} (h : Answered asked read inlet answers underway s)
    (hbytes : bytes <+: underway) :
    Answered asked read inlet answers (underway.drop bytes.length) (s.receive bytes) := by
  obtain ⟨later, rfl⟩ := hbytes
  refine ⟨?_, h.received, h.count, h.read_le⟩
  rw [List.drop_left, ← h.unread]
  simp [Inlet.unread, Stream.receive]

/-- The server answers a command that has reached it. -/
theorem answer (h : Answered asked read inlet answers underway s) (a : Answer)
    (hcount : answers.length + 1 ≤ asked.length)
    (hreached : Command.encodeAll (asked.take (answers.length + 1)) <+: s.sent) :
    Answered asked read inlet (answers ++ [a]) (underway ++ a.bytes) s := by
  refine ⟨?_, ?_, ?_, ?_⟩
  · rw [List.drop_append_of_le_length h.read_le, spell_append, ← List.append_assoc, h.unread]
    simp
  · rw [List.length_append, List.length_singleton]
    exact hreached
  · rw [List.length_append, List.length_singleton]
    exact hcount
  · rw [List.length_append]
    exact Nat.le_add_right_of_le h.read_le

end Answered

end World

end RespLink
