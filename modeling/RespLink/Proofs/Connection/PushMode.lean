import RespLink.Proofs.Connection.Contact
import RespLink.Proofs.Connection.Exchange
import RespLink.Proofs.Connection.Taint
import RespLink.Proofs.Connection.Taking
import RespLink.Proofs.Run

/-!
# Push mode — when a connection leaves it

A connection asks for subscription changes, the server acknowledges them name by name and sends
messages in between, and the connection takes what comes. It leaves push mode when it hears that
nothing is subscribed any more.

That is the first acknowledgement with a zero, which need not be the last one that is owed: names
may leave that never joined, and names may join after the others have left. So what holds is this
(`left_of_run`): of the acknowledgements that were owed all up to the first zero have been read, the
zero being the last frame of all that were read, and those behind it are still owed. If the zero was
the last of them nothing is left to be read, and what the server says next belongs to whoever asks
next. `left_early` shows the other case, in which a call gets an acknowledgement for its reply.
-/

namespace RespLink

/-- A contact in which subscriptions are changed and messages published. -/
structure Broadcast extends Contact where
  /-- The changes that the connection has asked for. -/
  asked : List Change
  /-- Whether the server has ever passed a message on with nothing subscribed. -/
  stray : Bool

namespace Broadcast

def start (settings : Settings) (stream : Stream) : Broadcast :=
  { Contact.start settings stream with asked := [], stray := false }

inductive Event where
  | operate (o : Operation)
  /-- The server acknowledges the next name. -/
  | acknowledge (a : Answer)
  /-- The server passes a message on. -/
  | publish (a : Answer)
  | peer (p : Peer)

/-- What the server acknowledges all changes with, sooner or later. -/
def counts (s : Broadcast) : List Nat := Audience.empty.counts s.asked

/-- What it has acknowledged. -/
def acknowledged (s : Broadcast) : List Nat := countsBetween s.answers 0 s.answers.length

/-- The number of subscriptions, as the server has said last. -/
def subscriptions (s : Broadcast) : Nat := s.acknowledged.getLast?.getD 0

/-- What is acknowledged behind the first `n` frames, sooner or later. -/
def owed (s : Broadcast) (n : Nat) : List Nat :=
  s.counts.drop (countsBetween s.answers 0 n).length

/-- Whether an operation is one of those that change subscriptions or take what is pushed. -/
def permits : Operation → Bool
  | .subscribe _ | .psubscribe _ | .unsubscribe _ | .punsubscribe _ | .nextPush | .listen _ => true
  | _ => false

/-- The broadcast after an operation, unless that has to wait. -/
def perform? (s : Broadcast) (o : Operation) : Option Broadcast :=
  match o.act s.connection with
  | .ok _ connection => some { s with connection, asked := s.asked ++ o.change?.toList }
  | .error (.failed _) connection => some { s with connection }
  | .error .waiting _ => none

def step? (s : Broadcast) : Event → Option Broadcast
  | .operate o => if permits o then s.perform? o else none
  | .acknowledge a =>
    if a.reply.count? = s.counts[s.acknowledged.length]? ∧ a.reply.count?.isSome then
      some { s with toContact := s.toContact.say a }
    else none
  | .publish a =>
    if a.reply.isMessage then
      some { s with toContact := s.toContact.say a, stray := s.stray || s.subscriptions == 0 }
    else none
  | .peer p => (s.toContact.undergo? p).map fun contact => { s with toContact := contact }

def run? (s : Broadcast) : List Event → Option Broadcast
  | [] => some s
  | e :: events =>
    match s.step? e with
    | some s' => s'.run? events
    | none => none

open Connection

variable {s s' : Broadcast} {o : Operation} {read : Nat} {c : Connection}

inductive Stepped (s : Broadcast) : Event → Broadcast → Prop
  | operated {o : Operation} {s' : Broadcast} (hpermits : permits o = true)
      (hperform : s.perform? o = some s') : Stepped s (.operate o) s'
  | acknowledged {a : Answer} (hnext : a.reply.count? = s.counts[s.acknowledged.length]?)
      (hsome : a.reply.count?.isSome) :
      Stepped s (.acknowledge a) { s with toContact := s.toContact.say a }
  | published {a : Answer} (hmessage : a.reply.isMessage) :
      Stepped s (.publish a)
        { s with toContact := s.toContact.say a, stray := s.stray || s.subscriptions == 0 }
  | undergone {p : Peer} {contact : Contact} (hcontact : s.toContact.undergo? p = some contact) :
      Stepped s (.peer p) { s with toContact := contact }

theorem stepped_of_step {e : Event} (hstep : s.step? e = some s') : Stepped s e s' := by
  cases e with
  | operate o =>
    simp only [step?] at hstep
    split at hstep
    · rename_i hpermits
      exact .operated hpermits hstep
    · cases hstep
  | acknowledge a =>
    simp only [step?] at hstep
    split at hstep
    · rename_i hnext
      cases hstep
      exact .acknowledged hnext.1 hnext.2
    · cases hstep
  | publish a =>
    simp only [step?] at hstep
    split at hstep
    · rename_i hmessage
      cases hstep
      exact .published hmessage
    · cases hstep
  | peer p =>
    obtain ⟨contact, hcontact, rfl⟩ := Option.map_eq_some_iff.mp hstep
    exact .undergone hcontact

/-! ## What operations do -/

/-- What an operation that did not fail has done, by the kinds of operation there are. -/
inductive Moved (s : Broadcast) (read : Nat) : Operation → Connection → Prop
  | changed {o : Operation} {c : Connection} (ch : Change) (hchange : o.change? = some ch)
      (hbooks : Books s.answers s.underway (s.asked.map Change.command ++ [ch.command]) read c)
      (hinside : c.inTransaction = s.connection.inTransaction)
      (hpipeline : c.pipeline = s.connection.pipeline)
      (hactive : c.subscription.active = true) : Moved s read o c
  | took {o : Operation} {c : Connection} (read' : Nat) (hchange : o.change? = none)
      (h : Took s.answers s.underway (s.asked.map Change.command) s.connection read read' c)
      (hidle : s.connection.subscription.active = false → c = s.connection) : Moved s read o c

/-- What an operation that failed has done. It has not ended push mode. -/
def Failed (s : Broadcast) (read : Nat) (e : Error) (c : Connection) : Prop :=
  (s.connection.subscription.active = true → c.subscription.active = true) ∧
    (Refused s.connection e c ∨ Taints e c ∨ s.connection.subscription.active = true ∧ ∃ read',
      Took s.answers s.underway (s.asked.map Change.command) s.connection read read' c)

theorem change_ensures (ch : Change)
    (hbooks : Books s.answers s.underway (s.asked.map Change.command) read s.connection)
    (hclean : s.connection.taint = none) (hchange : o.change? = some ch) :
    (changeSubscription ch.command).Ensures s.connection (fun _ c => Moved s read o c)
      (Failed s read) := by
  have hensures := changeSubscription_ensures hbooks hclean ch.command
  have hmoved (c : Connection)
      (h : Books s.answers s.underway (s.asked.map Change.command ++ [ch.command]) read c ∧
        c.inTransaction = s.connection.inTransaction ∧ c.pipeline = s.connection.pipeline ∧
        c.subscription.active = true) :
      Moved s read o c := .changed ch hchange h.1 h.2.1 h.2.2.1 h.2.2.2
  cases hactive : s.connection.subscription.active with
  | false =>
    refine hensures.mono (fun _ c h => hmoved c h) fun e c h => ?_
    exact ⟨fun h => absurd (hactive.symm.trans h) (by simp), h.imp_right Or.inl⟩
  | true =>
    have hleaves := changeSubscription_leaves_active hactive ch.command
    refine (hensures.and_leaves hleaves).mono (fun _ c h => hmoved c h.1) fun e c h => ?_
    exact ⟨fun _ => h.2, h.1.imp_right Or.inl⟩

theorem operate_ensures
    (hbooks : Books s.answers s.underway (s.asked.map Change.command) read s.connection)
    (hclean : s.connection.taint = none) (hpermits : permits o = true) :
    o.act.Ensures s.connection (fun _ c => Moved s read o c) (Failed s read) := by
  have hvain (hactive : s.connection.subscription.active = true) {e : Error} {c : Connection}
      (h : TookInVain s.answers s.underway (s.asked.map Change.command) s.connection read e c) :
      Failed s read e c := ⟨fun _ => h.1, Or.inr (h.2.imp_right fun htook => ⟨hactive, htook⟩)⟩
  cases o with
  | subscribe channels => exact change_ensures ⟨false, false, channels⟩ hbooks hclean rfl
  | psubscribe patterns => exact change_ensures ⟨false, true, patterns⟩ hbooks hclean rfl
  | unsubscribe channels => exact change_ensures ⟨true, false, channels⟩ hbooks hclean rfl
  | punsubscribe patterns => exact change_ensures ⟨true, true, patterns⟩ hbooks hclean rfl
  | nextPush =>
    cases hactive : s.connection.subscription.active with
    | true =>
      refine (nextPush_ensures hbooks hclean hactive).mono ?_ fun _ _ => hvain hactive
      rintro event c ⟨read', h⟩
      exact .took read' rfl h fun hidle => absurd (hactive.symm.trans hidle) (by simp)
    | false =>
      refine .get (Act.Ensures.usable hclean (.get (.guard ?_ ?_)))
      · exact fun _ => ⟨fun h => h, Or.inl ⟨rfl, _, rfl⟩⟩
      · exact fun hnot => absurd (by simp [hactive]) hnot
  | listen stop =>
    cases hactive : s.connection.subscription.active with
    | true =>
      refine (listen_ensures stop hbooks hclean hactive).mono ?_ fun _ _ => hvain hactive
      rintro _ c ⟨read', h⟩
      exact .took read' rfl h fun hidle => absurd (hactive.symm.trans hidle) (by simp)
    | false =>
      refine (listenWithin_of_idle stop _ _ hactive).mono ?_ fun _ _ h => h.elim
      rintro _ c rfl
      exact .took read rfl (.same hbooks (.refl _)) fun _ => rfl
  | _ => cases hpermits

theorem eq_of_perform_tainted {reason : String} (htaint : s.connection.taint = some reason)
    (hpermits : permits o = true) (hperform : s.perform? o = some s') :
    s'.connection = s.connection := by
  have hact : (∃ v, o.act s.connection = .ok v s.connection) ∨
      ∃ halt, o.act s.connection = .error halt s.connection := by
    cases o with
    | listen stop =>
      have hlistened := listen_of_tainted htaint stop
      split at hlistened
      · exact Or.inr ⟨_, hlistened⟩
      · exact Or.inl ⟨(), hlistened⟩
    | _ => first
      | exact Or.inr ⟨_, Operation.act_of_tainted htaint rfl (by simp)⟩
      | cases hpermits
  unfold perform? at hperform
  rcases hact with ⟨v, hv⟩ | ⟨halt, hhalt⟩
  · rw [hv] at hperform
    cases hperform
    rfl
  · rw [hhalt] at hperform
    cases halt with
    | failed e =>
      cases hperform
      rfl
    | waiting => cases hperform

/-! ## What lasts -/

/-- What holds in a broadcast as long as its connection is not tainted. -/
structure Orderly (s : Broadcast) : Prop where
  books : ∃ read, Books s.answers s.underway (s.asked.map Change.command) read s.connection
  outside : s.connection.inTransaction = false
  acknowledged : s.acknowledged <+: s.counts
  /-- Where nothing is subscribed, that is what the server has said last. -/
  quiet : s.stray = false → s.subscriptions = 0 →
    ∀ a, s.answers.getLast? = some a → a.reply.count? ≠ none

theorem Orderly.start (settings : Settings) (stream : Stream) :
    (start settings stream).Orderly where
  books := ⟨0, Contact.books_start settings stream⟩
  outside := rfl
  acknowledged := List.nil_prefix
  quiet _ _ a h := by cases h

theorem acknowledged_say (s : Broadcast) (a : Answer) :
    { s with toContact := s.toContact.say a }.acknowledged =
      s.acknowledged ++ a.reply.count?.toList := by
  rw [acknowledged, acknowledged, countsBetween_all, countsBetween_all, Contact.say,
    List.filterMap_append]
  cases hcount : a.reply.count? <;> simp [hcount]

theorem Orderly.moved (hs : s.Orderly) (hmoved : Moved s read o c) :
    { s with connection := c, asked := s.asked ++ o.change?.toList }.Orderly := by
  cases hmoved with
  | changed ch hchange hbooks hinside hpipeline hactive =>
    refine ⟨⟨read, ?_⟩, hinside.trans hs.outside, ?_, hs.quiet⟩
    · rw [hchange, Option.toList_some, List.map_append]
      exact hbooks
    · exact hs.acknowledged.trans (Audience.counts_prefix _ _ _)
  | took read' hchange h hidle =>
    rw [hchange, Option.toList_none, List.append_nil]
    exact ⟨⟨read', h.books⟩, h.inTransaction.trans hs.outside, hs.acknowledged, hs.quiet⟩

theorem Orderly.failed {e : Error} (hs : s.Orderly) (hfailed : Failed s read e c)
    (hclean : c.taint = none) : { s with connection := c }.Orderly := by
  rcases hfailed.2 with ⟨rfl, -⟩ | htaints | ⟨-, read', h⟩
  · exact hs
  · exact absurd hclean htaints
  · exact ⟨⟨read', h.books⟩, h.inTransaction.trans hs.outside, hs.acknowledged, hs.quiet⟩

theorem Orderly.perform (hs : s.Orderly) (hclean : s.connection.taint = none)
    (hpermits : permits o = true) (hperform : s.perform? o = some s')
    (hclean' : s'.connection.taint = none) : s'.Orderly := by
  obtain ⟨read, hbooks⟩ := hs.books
  have hensures := operate_ensures hbooks hclean hpermits
  unfold perform? at hperform
  split at hperform
  · rename_i v c hrun
    cases hperform
    exact hs.moved (hensures.ok_of_run hrun)
  · rename_i e c hrun
    cases hperform
    exact hs.failed (hensures.failed_of_run hrun) hclean'
  · cases hperform

theorem Orderly.acknowledge {a : Answer} (hs : s.Orderly)
    (hnext : a.reply.count? = s.counts[s.acknowledged.length]?)
    (hsome : a.reply.count?.isSome) : { s with toContact := s.toContact.say a }.Orderly := by
  obtain ⟨read, hbooks⟩ := hs.books
  obtain ⟨k, hk⟩ := Option.isSome_iff_exists.mp hsome
  refine ⟨⟨read, hbooks.say a⟩, hs.outside, ?_, ?_⟩
  · rw [hk] at hnext
    obtain ⟨hlt, hget⟩ := List.getElem?_eq_some_iff.mp hnext.symm
    have hrest : s.counts.drop s.acknowledged.length =
        k :: s.counts.drop (s.acknowledged.length + 1) := by
      rw [List.drop_eq_getElem_cons hlt, hget]
    rw [acknowledged_say, hk]
    exact concat_prefix_of_drop hs.acknowledged hrest
  · intro _ _ last hlast
    have hlast : (s.answers ++ [a]).getLast? = some last := hlast
    rw [List.getLast?_concat, Option.some.injEq] at hlast
    rw [← hlast, hk]
    exact Option.some_ne_none k

theorem Orderly.publish {a : Answer} (hs : s.Orderly) (hmessage : a.reply.isMessage) :
    { s with
      toContact := s.toContact.say a
      stray := s.stray || s.subscriptions == 0 }.Orderly := by
  obtain ⟨read, hbooks⟩ := hs.books
  have hsame : { s with toContact := s.toContact.say a }.acknowledged = s.acknowledged := by
    rw [acknowledged_say, Reply.count?_of_isMessage hmessage]
    exact List.append_nil _
  refine ⟨⟨read, hbooks.say a⟩, hs.outside, ?_, ?_⟩
  · exact hsame.symm ▸ hs.acknowledged
  · intro hstray hnone
    have hstray : (s.stray || s.subscriptions == 0) = false := hstray
    have hnone : { s with toContact := s.toContact.say a }.subscriptions = 0 := hnone
    rw [subscriptions, hsame] at hnone
    simp [subscriptions, hnone] at hstray

theorem Orderly.undergo {p : Peer} {contact : Contact} (hs : s.Orderly)
    (hcontact : s.toContact.undergo? p = some contact) :
    { s with toContact := contact }.Orderly := by
  obtain ⟨read, hbooks⟩ := hs.books
  obtain ⟨stream, underway, rfl, hstream⟩ := Contact.exists_of_undergo? hcontact
  exact ⟨⟨read, hstream hbooks⟩, hs.outside, hs.acknowledged, hs.quiet⟩

theorem clean_of_step {e : Event} (hstep : s.step? e = some s')
    (hclean' : s'.connection.taint = none) : s.connection.taint = none := by
  cases stepped_of_step hstep with
  | operated hpermits hperform =>
    cases htaint : s.connection.taint with
    | none => rfl
    | some reason =>
      rw [eq_of_perform_tainted htaint hpermits hperform, htaint] at hclean'
      cases hclean'
  | acknowledged hnext hsome => exact hclean'
  | published hmessage => exact hclean'
  | undergone hcontact =>
    obtain ⟨stream, underway, rfl, -⟩ := Contact.exists_of_undergo? hcontact
    exact hclean'

theorem Orderly.step {e : Event} (hs : s.Orderly) (hstep : s.step? e = some s')
    (hclean : s.connection.taint = none) (hclean' : s'.connection.taint = none) : s'.Orderly := by
  cases stepped_of_step hstep with
  | operated hpermits hperform => exact hs.perform hclean hpermits hperform hclean'
  | acknowledged hnext hsome => exact hs.acknowledge hnext hsome
  | published hmessage => exact hs.publish hmessage
  | undergone hcontact => exact hs.undergo hcontact

theorem iterates : Iterates step? run? where
  nil _ := rfl
  cons s e events := by
    rw [run?]
    cases s.step? e <;> rfl

theorem Orderly.run {events : List Event} (hs : s.Orderly) (hrun : s.run? events = some s')
    (hclean : s'.connection.taint = none) : s'.Orderly :=
  iterates.keep clean_of_step (fun _ => True)
    (fun _ hs hstep hclean hclean' => hs.step hstep hclean hclean') (fun _ _ => trivial) hs hrun
    hclean

/-! ## Leaving push mode -/

/-- What was heard is the beginning of all that there is to be heard. -/
theorem Orderly.heard_prefix {n : Nat} (hs : s.Orderly) (hn : n ≤ s.answers.length) :
    countsBetween s.answers 0 n <+: s.counts := by
  have hheard : s.acknowledged =
      countsBetween s.answers 0 n ++ countsBetween s.answers n s.answers.length :=
    countsBetween_append (Nat.zero_le n) hn
  exact (hheard ▸ List.prefix_append _ _).trans hs.acknowledged

/-- Nothing is left to be read: what the server says next is what the next call reads. -/
structure Settled (s : Broadcast) : Prop where
  read : s.HasRead s.answers.length
  call : ∀ (a : Answer) q v c,
    Connection.call q { s.connection with
      stream := s.connection.stream.receive a.bytes } = .ok v c → q.parse a.reply = .ok v

/-- Once everything was read a call reads what the server says next. -/
theorem Orderly.call (hs : s.Orderly)
    (hbooks : Books s.answers s.underway (s.asked.map Change.command) s.answers.length
      s.connection) (a : Answer) (q : Request) (v : q.answer.Value)
    (hrun : Connection.call q { s.connection with
      stream := s.connection.stream.receive a.bytes } = .ok v c) : q.parse a.reply = .ok v := by
  have hclean := clean_of_call hrun
  have hnone := hbooks.unread
  rw [List.drop_length, spell_nil, List.append_eq_nil_iff] at hnone
  have hsaid : Books (s.answers ++ [a]) [] (s.asked.map Change.command) s.answers.length
      { s.connection with stream := s.connection.stream.receive a.bytes } :=
    (hbooks.say a).restream rfl (by simp [Stream.receive, hnone.2])
  obtain ⟨-, r, hexchanged, hparse⟩ := (anyCall_ensures hsaid hclean q).ok_of_run hrun
  have hr := hexchanged.reply
  rw [List.getElem?_concat_length, Option.map_some, Option.some.injEq] at hr
  rw [hr]
  exact hparse hs.outside

/-- If the last acknowledgement that was read is the last one there is, there is none behind it,
    and if it says that nothing is subscribed, nothing else is either. -/
theorem Orderly.settled {more : List Nat} (hs : s.Orderly)
    (hbooks : Books s.answers s.underway (s.asked.map Change.command) read s.connection)
    (hheard : countsBetween s.answers 0 read = more ++ [0]) (howed : s.owed read = []) :
    (∀ a ∈ s.answers.drop read, a.reply.count? = none) ∧ (s.stray = false → s.Settled) := by
  have hsplit : s.acknowledged = more ++ [0] ++ countsBetween s.answers read s.answers.length := by
    rw [← hheard]
    exact countsBetween_append (Nat.zero_le _) hbooks.read_le
  -- what was acknowledged is at most what was heard, for that is all there is
  have hsilent : countsBetween s.answers read s.answers.length = [] := by
    have hle := hs.acknowledged.length_le
    have hall := List.drop_eq_nil_iff.mp howed
    rw [hsplit, List.length_append] at hle
    rw [hheard] at hall
    exact List.eq_nil_of_length_eq_zero (by omega)
  have hnone : s.subscriptions = 0 := by
    rw [subscriptions, hsplit, hsilent, List.append_nil, List.getLast?_concat]
    rfl
  have hcounts : ∀ a ∈ s.answers.drop read, a.reply.count? = none := by
    rw [countsBetween, List.take_of_length_le (Nat.le_of_eq List.length_drop),
      List.filterMap_eq_nil_iff] at hsilent
    exact hsilent
  refine ⟨hcounts, fun hstray => ?_⟩
  have hread : read = s.answers.length := by
    refine Nat.le_antisymm hbooks.read_le (Nat.le_of_not_lt fun hlt => ?_)
    -- otherwise the last thing said is behind what was read, and no acknowledgement
    have hpos : 0 < s.answers.length := Nat.lt_of_le_of_lt (Nat.zero_le read) hlt
    obtain ⟨a, ha⟩ : ∃ a, s.answers.getLast? = some a :=
      ⟨_, List.getLast?_eq_some_getLast (List.ne_nil_of_length_pos hpos)⟩
    have hlast : (s.answers.drop read).getLast? = some a := by
      rw [List.getLast?_drop, if_neg (Nat.not_le_of_lt hlt)]
      exact ha
    exact hs.quiet hstray hnone a ha (hcounts a (List.mem_of_getLast? hlast))
  subst hread
  exact ⟨Contact.hasRead_of_books hbooks, fun a q v c hrun => hs.call hbooks a q v hrun⟩

/-- The frames that were taken when push mode was left, and the acknowledgements among them. -/
theorem Orderly.left (hs : s.Orderly) (hclean : s.connection.taint = none)
    (hpermits : permits o = true) (hperform : s.perform? o = some s')
    (hactive : s.connection.subscription.active = true)
    (hidle : s'.connection.subscription.active = false) :
    ∃ read read' more, s'.Orderly ∧ s'.asked = s.asked ∧ s'.answers = s.answers ∧
      Books s.answers s.underway (s.asked.map Change.command) read s.connection ∧
      Books s'.answers s'.underway (s'.asked.map Change.command) read' s'.connection ∧
      countsBetween s.answers 0 read' = countsBetween s.answers 0 read ++ (more ++ [0]) ∧
      (∀ k ∈ more, 0 < k) ∧
      ∃ a, ((s.answers.drop read).take (read' - read)).getLast? = some a ∧
        a.reply.count? = some 0 := by
  obtain ⟨read, hbooks⟩ := hs.books
  have hensures := operate_ensures hbooks hclean hpermits
  unfold perform? at hperform
  split at hperform
  · rename_i v c hrun
    cases hperform
    have hmoved := hensures.ok_of_run hrun
    have horderly := hs.moved hmoved
    cases hmoved with
    | changed ch hchange hbooks' hinside hpipeline hstill =>
      exact absurd (hstill.symm.trans hidle) (by simp)
    | took read' hchange htook hsame =>
      rw [hchange, Option.toList_none, List.append_nil] at horderly ⊢
      obtain ⟨more, hmore, hpositive⟩ := htook.left hactive hidle
      refine ⟨read, read', more, horderly, rfl, rfl, hbooks, htook.books, ?_, hpositive,
        htook.last hactive hidle⟩
      rw [← hmore]
      exact countsBetween_append (Nat.zero_le _) htook.le
  · rename_i e c hrun
    cases hperform
    have hstill := (hensures.failed_of_run hrun).1 hactive
    exact absurd (hstill.symm.trans hidle) (by simp)
  · cases hperform

/-- Only operations end push mode, and only on a connection that is not tainted. -/
theorem exists_of_left {e : Event} (hstep : s.step? e = some s')
    (hactive : s.connection.subscription.active = true)
    (hidle : s'.connection.subscription.active = false) :
    ∃ o, permits o = true ∧ s.perform? o = some s' ∧ s.connection.taint = none := by
  have hmoved : s'.connection.subscription ≠ s.connection.subscription := by
    intro hsame
    rw [hsame, hactive] at hidle
    cases hidle
  cases stepped_of_step hstep with
  | @operated o _ hpermits hperform =>
    refine ⟨o, hpermits, hperform, ?_⟩
    cases htaint : s.connection.taint with
    | none => rfl
    | some reason =>
      exact absurd (by rw [eq_of_perform_tainted htaint hpermits hperform]) hmoved
  | acknowledged hnext hsome => exact absurd rfl hmoved
  | published hmessage => exact absurd rfl hmoved
  | undergone hcontact =>
    obtain ⟨stream, underway, rfl, -⟩ := Contact.exists_of_undergo? hcontact
    exact absurd rfl hmoved

/-- Whatever is asked for and whatever is published, push mode is left with the first
    acknowledgement owed that says that nothing is subscribed: those before it have been read and
    those behind it are still owed. It is the last frame that was read, whatever messages there were
    before it or are behind it. If none but the last says so, none is owed or left to be read,
    and nothing else is unless messages are passed on to those who did not subscribe. -/
theorem left_of_run {settings : Settings} {stream : Stream} {events : List Event} {e : Event}
    (hrun : (Broadcast.start settings stream).run? events = some s) (hstep : s.step? e = some s')
    (hactive : s.connection.subscription.active = true)
    (hidle : s'.connection.subscription.active = false) :
    ∃ n n' more rest, s.HasRead n ∧ s'.HasRead n' ∧ s.owed n = more ++ 0 :: rest ∧
      (∀ k ∈ more, 0 < k) ∧ s'.owed n' = rest ∧
      (∃ a, ((s'.answers.drop n).take (n' - n)).getLast? = some a ∧ a.reply.count? = some 0) ∧
      ((∀ k ∈ (s.owed n).dropLast, 0 < k) →
        rest = [] ∧ (∀ a ∈ s'.answers.drop n', a.reply.count? = none) ∧
          (s'.stray = false → s'.Settled)) := by
  obtain ⟨o, hpermits, hperform, hclean⟩ := exists_of_left hstep hactive hidle
  have hs := (Orderly.start settings stream).run hrun hclean
  obtain ⟨n, n', more, hs', hasked, hanswers, hbooks, hbooks', hcounts, hpositive, hend⟩ :=
    hs.left hclean hpermits hperform hactive hidle
  have hcountsOf : s'.counts = s.counts := by rw [counts, counts, hasked]
  have hread : n' ≤ s.answers.length := by
    rw [← hanswers]
    exact hbooks'.read_le
  obtain ⟨rest, hrest⟩ := hs.heard_prefix hread
  have howed : s.owed n = more ++ 0 :: rest := by
    rw [owed, ← hrest, hcounts, List.append_assoc, List.drop_left, List.append_assoc]
    rfl
  have howed' : s'.owed n' = rest := by
    rw [owed, hanswers, hcountsOf, ← hrest, List.drop_left]
  refine ⟨n, n', more, rest, Contact.hasRead_of_books hbooks, Contact.hasRead_of_books hbooks',
    howed, hpositive, howed', hanswers ▸ hend, fun honly => ?_⟩
  have hlast : rest = [] := by
    cases rest with
    | nil => rfl
    | cons k rest =>
      have hzero : 0 ∈ (s.owed n).dropLast := by simp [howed]
      exact absurd (honly 0 hzero) (Nat.lt_irrefl 0)
  rw [hlast] at howed'
  have hzero : countsBetween s'.answers 0 n' = countsBetween s.answers 0 n ++ more ++ [0] := by
    rw [hanswers, hcounts, List.append_assoc]
  exact ⟨hlast, hs'.settled hbooks' hzero howed'⟩

/-- The frame that confirms one name. -/
def confirmation (word : String) (name : Bytes) (count : Int64) : Reply :=
  .array [.bulk (Text.toBytes word), .bulk name, .integer count]

/-- A channel is subscribed to and left again, and something is published meanwhile. -/
def visit : List Event :=
  let joined := Answer.ofReply (confirmation "subscribe" [97] 1) rfl
  let message :=
    Answer.ofReply (.array [.bulk (Text.toBytes "message"), .bulk [97], .bulk [33]]) rfl
  let parted := Answer.ofReply (confirmation "unsubscribe" [97] 0) rfl
  [.operate (.subscribe [[97]]), .acknowledge joined, .publish message,
    .operate (.unsubscribe [[97]]), .acknowledge parted,
    .peer (.deliver (spell [joined, message, parted]))]

theorem left_of_run_visit : ∃ settings stream s s',
    (Broadcast.start settings stream).run? visit = some s ∧
    s.step? (.operate (.listen .never)) = some s' ∧
    s.connection.subscription.active = true ∧ s'.connection.subscription.active = false ∧
    s.HasRead 0 ∧ s.owed 0 = [1, 0] ∧ s'.Settled := by
  have hend : (((Broadcast.start Settings.default (Stream.greeting [])).run? visit).bind fun s =>
      (s.step? (.operate (.listen .never))).map fun s' =>
        ((s.connection.subscription.active, decide (s.HasRead 0), s.owed 0),
          s'.connection.subscription.active, s'.stray)) =
      some ((true, true, [1, 0]), false, false) := by
    decide +kernel
  obtain ⟨s, hrun, hlisten⟩ := Option.bind_eq_some_iff.mp hend
  obtain ⟨s', hstep, hs⟩ := Option.map_eq_some_iff.mp hlisten
  simp only [Prod.mk.injEq, decide_eq_true_eq] at hs
  obtain ⟨⟨hactive, hread, howed⟩, hidle, hstray⟩ := hs
  obtain ⟨n, n', more, rest, hn, -, -, -, -, -, hsettled⟩ := left_of_run hrun hstep hactive hidle
  obtain rfl : n = 0 := hn.eq hread
  have honly : ∀ k ∈ (s.owed 0).dropLast, 0 < k := by
    rw [howed]
    decide
  exact ⟨_, _, s, s', hrun, hstep, hactive, hidle, hread, howed, (hsettled honly).2.2 hstray⟩

/-- Two names leave that never joined. -/
def strangers : List Event :=
  let first := Answer.ofReply (confirmation "unsubscribe" [97] 0) rfl
  let second := Answer.ofReply (confirmation "unsubscribe" [98] 0) rfl
  [.operate (.unsubscribe [[97], [98]]), .acknowledge first, .acknowledge second,
    .peer (.deliver (spell [first, second]))]

/-- Push mode is left with the first of two acknowledgements, and a call gets the second one for
    its reply. -/
theorem left_early : ∃ s s' : Broadcast,
    (Broadcast.start Settings.default (Stream.greeting [])).run? strangers = some s ∧
    s.step? (.operate .nextPush) = some s' ∧
    s.connection.subscription.active = true ∧ s'.connection.subscription.active = false ∧
    s'.HasRead 1 ∧ s'.owed 1 = [0] ∧
    Act.value? (α := Reply) (Connection.call ⟨Catalog.ping.command, .reply⟩) s'.connection =
      some (confirmation "unsubscribe" [98] 0) := by
  have hend : (((Broadcast.start Settings.default (Stream.greeting [])).run? strangers).bind
      fun s => (s.step? (.operate .nextPush)).map fun s' =>
        ((s.connection.subscription.active, s'.connection.subscription.active),
          (decide (s'.HasRead 1), s'.owed 1),
          Act.value? (α := Reply) (Connection.call ⟨Catalog.ping.command, .reply⟩)
            s'.connection)) =
      some ((true, false), (true, [0]), some (confirmation "unsubscribe" [98] 0)) := by
    decide +kernel
  obtain ⟨s, hrun, hpush⟩ := Option.bind_eq_some_iff.mp hend
  obtain ⟨s', hstep, hs⟩ := Option.map_eq_some_iff.mp hpush
  simp only [Prod.mk.injEq, decide_eq_true_eq] at hs
  obtain ⟨⟨hactive, hidle⟩, ⟨hread, howed⟩, hvalue⟩ := hs
  exact ⟨s, s', hrun, hstep, hactive, hidle, hread, howed, hvalue⟩

end Broadcast

end RespLink
