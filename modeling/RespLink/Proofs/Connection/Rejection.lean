import RespLink.Proofs.Connection.Endings
import RespLink.Proofs.Connection.PushMode
import RespLink.Proofs.Connection.Refusing

/-!
# Rejection — a subscription that the server turns down

A connection enters push mode when it has written a request to subscribe, before it knows what the
server makes of it, and only an acknowledgement ends push mode again. If the server turns the
request down, none comes. So a connection whose last request was turned down is in push mode even if
nothing is subscribed: it waits for messages that nobody will send, and refuses every call until
another request was granted.

`push_mode_of_answered` says this of every connection to a server that answers each request with its
acknowledgements or with one error: once all is answered and heard, the connection is in push mode
if and only if something is subscribed or the last request was turned down. `stranded` is the
shortest life that ends so.
-/

namespace RespLink

/-- A broadcast whose server rules on every change: it grants the change and acknowledges it name by
    name, or it turns it down with an error. -/
structure Docket extends Broadcast where
  /-- For each change that the server has ruled on, whether it was granted. -/
  rulings : List Bool
  /-- What the change that was granted last is still to be acknowledged with. -/
  due : List Nat
  /-- What is subscribed, as the server keeps it. -/
  audience : Audience

namespace Docket

def start (settings : Settings) (stream : Stream) : Docket :=
  { Broadcast.start settings stream with rulings := [], due := [], audience := Audience.empty }

inductive Event where
  | operate (o : Operation)
  /-- The server grants the next change. -/
  | grant
  /-- The server turns the next change down. -/
  | reject (a : Answer)
  /-- The server acknowledges the next name. -/
  | acknowledge (a : Answer)
  /-- The server passes a message on. -/
  | publish (a : Answer)
  | peer (p : Peer)

/-- The docket after the server granted the next change. It has to have something to acknowledge:
    a request without names is not granted, unless it is to leave everything. -/
def grant? (s : Docket) : Option Docket :=
  match s.asked[s.rulings.length]? with
  | some ch =>
    if s.due = [] ∧ (s.audience.change ch).1 ≠ [] then
      some { s with
        rulings := s.rulings ++ [true]
        due := (s.audience.change ch).1
        audience := (s.audience.change ch).2 }
    else none
  | none => none

def step? (s : Docket) : Event → Option Docket
  | .operate o =>
    if Broadcast.permits o then
      (s.toBroadcast.perform? o).map fun broadcast => { s with toBroadcast := broadcast }
    else none
  | .grant => s.grant?
  | .reject a =>
    if s.due = [] ∧ s.rulings.length < s.asked.length ∧ a.reply.isError then
      some { s with toContact := s.toContact.say a, rulings := s.rulings ++ [false] }
    else none
  | .acknowledge a =>
    if a.reply.count? = s.due.head? ∧ a.reply.count?.isSome then
      some { s with toContact := s.toContact.say a, due := s.due.tail }
    else none
  | .publish a =>
    if a.reply.isMessage then some { s with toContact := s.toContact.say a } else none
  | .peer p => (s.toContact.undergo? p).map fun contact => { s with toContact := contact }

def run? (s : Docket) : List Event → Option Docket
  | [] => some s
  | e :: events =>
    match s.step? e with
    | some s' => s'.run? events
    | none => none

/-- The server has answered everything that it was asked for. -/
def Answered (s : Docket) : Prop := s.rulings.length = s.asked.length ∧ s.due = []

end Docket

/-! ## The last word -/

/-- The last frame that is no message. -/
def lastWord? (answers : List Answer) : Option Answer :=
  (answers.filter fun a => !a.reply.isMessage).getLast?

/-- Whether a connection is in push mode after some frames of which it was to hear the last. -/
def pushing (answers : List Answer) : Bool :=
  match lastWord? answers with
  | none => false
  | some a => (a.reply.count?.map fun k => decide (0 < k)).getD true

section

variable {answers : List Answer} {a : Answer}

theorem pushing_message (h : a.reply.isMessage) : pushing (answers ++ [a]) = pushing answers := by
  simp [pushing, lastWord?, h]

theorem pushing_word (h : a.reply.isMessage = false) :
    pushing (answers ++ [a]) = (a.reply.count?.map fun k => decide (0 < k)).getD true := by
  simp [pushing, lastWord?, h]

theorem not_isMessage_of_count {k : Nat} (h : a.reply.count? = some k) :
    a.reply.isMessage = false := by
  refine Bool.eq_false_iff.mpr fun hmessage => ?_
  rw [Reply.count?_of_isMessage hmessage] at h
  cases h

/-- The last word among the frames from one on up to another, if all behind them are messages. -/
theorem lastWord?_of_taken {front taken behind init : List Answer}
    (hwords : taken.filter (fun a => !a.reply.isMessage) = init ++ [a])
    (hbehind : ∀ b ∈ behind, b.reply.isMessage) :
    lastWord? (front ++ (taken ++ behind)) = some a := by
  have hsilent : behind.filter (fun a => !a.reply.isMessage) = [] :=
    List.filter_eq_nil_iff.mpr fun b hb => by simp [hbehind b hb]
  rw [lastWord?, List.filter_append, List.filter_append, hwords, hsilent, List.append_nil,
    ← List.append_assoc, List.getLast?_concat]

/-- A connection in push mode that has heard the last word is in the mode that this left it in. -/
theorem Connection.active_of_took {underway : Bytes} {accepted : List Command} {read read' : Nat}
    {c c' : Connection} (h : Took answers underway accepted c read read' c')
    (hactive : c.subscription.active = true)
    (hbefore : (∀ a ∈ answers.drop read, a.reply.isMessage) →
      c.subscription.active = pushing answers)
    (hafter : ∀ a ∈ answers.drop read', a.reply.isMessage) :
    c'.subscription.active = pushing answers := by
  have hsplit : answers.drop read =
      (answers.drop read).take (read' - read) ++ answers.drop read' := by
    have hparts := List.take_append_drop (read' - read) (answers.drop read)
    rw [List.drop_drop, Nat.add_sub_cancel' h.le] at hparts
    exact hparts.symm
  have hstayed := h.stayed hactive
  have hlast := h.last hactive
  rw [countsBetween] at hstayed
  generalize (answers.drop read).take (read' - read) = taken at hsplit hstayed hlast
  rcases List.eq_nil_or_concat (taken.filter fun a => !a.reply.isMessage) with
    hsilent | ⟨init, a, hwords⟩
  · -- nothing but messages was taken, and they end no push mode
    have htaken : ∀ b ∈ taken, b.reply.isMessage := fun b hb => by
      simpa using List.filter_eq_nil_iff.mp hsilent b hb
    have hmessages : ∀ b ∈ answers.drop read, b.reply.isMessage := by
      rw [hsplit]
      exact List.forall_mem_append.mpr ⟨htaken, hafter⟩
    rw [← hbefore hmessages, hactive]
    cases hmode : c'.subscription.active with
    | true => rfl
    | false =>
      obtain ⟨b, hb, hzero⟩ := hlast hmode
      rw [Reply.count?_of_isMessage (htaken b (List.mem_of_getLast? hb))] at hzero
      cases hzero
  · rw [List.concat_eq_append] at hwords
    have hword : lastWord? answers = some a := by
      rw [← List.take_append_drop read answers, hsplit]
      exact lastWord?_of_taken hwords hafter
    have hpushing : pushing answers = (a.reply.count?.map fun k => decide (0 < k)).getD true := by
      rw [pushing, hword]
    rw [hpushing]
    cases hmode : c'.subscription.active with
    | true =>
      cases hcount : a.reply.count? with
      | none => rfl
      | some k =>
        have hmem : a ∈ taken.filter fun a => !a.reply.isMessage := by simp [hwords]
        have hpositive := hstayed hmode k
          (List.mem_filterMap.mpr ⟨a, (List.mem_filter.mp hmem).1, hcount⟩)
        simp [hpositive]
    | false =>
      -- the frame that ended push mode was the last that was taken, and no message
      obtain ⟨b, hb, hzero⟩ := hlast hmode
      obtain ⟨front, rfl⟩ := List.getLast?_eq_some_iff.mp hb
      rw [List.filter_append, List.filter_cons_of_pos (by simp [not_isMessage_of_count hzero]),
        List.filter_nil] at hwords
      obtain ⟨-, hab⟩ := List.append_inj' hwords rfl
      cases hab
      rw [hzero]
      rfl

end

namespace Docket

open Connection

variable {s s' : Docket}

inductive Stepped (s : Docket) : Event → Docket → Prop
  | operated {o : Operation} {broadcast : Broadcast} (hpermits : Broadcast.permits o = true)
      (hperform : s.toBroadcast.perform? o = some broadcast) :
      Stepped s (.operate o) { s with toBroadcast := broadcast }
  | granted {ch : Change} (hch : s.asked[s.rulings.length]? = some ch)
      (hsome : (s.audience.change ch).1 ≠ []) :
      Stepped s .grant { s with
        rulings := s.rulings ++ [true]
        due := (s.audience.change ch).1
        audience := (s.audience.change ch).2 }
  | rejected {a : Answer} (hdue : s.due = []) (hnext : s.rulings.length < s.asked.length)
      (herror : a.reply.isError) :
      Stepped s (.reject a)
        { s with toContact := s.toContact.say a, rulings := s.rulings ++ [false] }
  | acknowledged {a : Answer} {k : Nat} {rest : List Nat} (hdue : s.due = k :: rest)
      (hcount : a.reply.count? = some k) :
      Stepped s (.acknowledge a) { s with toContact := s.toContact.say a, due := rest }
  | published {a : Answer} (hmessage : a.reply.isMessage) :
      Stepped s (.publish a) { s with toContact := s.toContact.say a }
  | undergone {p : Peer} {contact : Contact} (hcontact : s.toContact.undergo? p = some contact) :
      Stepped s (.peer p) { s with toContact := contact }

theorem stepped_of_step {e : Event} (hstep : s.step? e = some s') : Stepped s e s' := by
  cases e with
  | operate o =>
    simp only [step?] at hstep
    split at hstep
    · rename_i hpermits
      obtain ⟨broadcast, hperform, rfl⟩ := Option.map_eq_some_iff.mp hstep
      exact .operated hpermits hperform
    · cases hstep
  | grant =>
    simp only [step?, grant?] at hstep
    split at hstep
    · rename_i ch hch
      split at hstep
      · rename_i hgrant
        cases hstep
        exact .granted hch hgrant.2
      · cases hstep
    · cases hstep
  | reject a =>
    simp only [step?] at hstep
    split at hstep
    · rename_i hreject
      cases hstep
      exact .rejected hreject.1 hreject.2.1 hreject.2.2
    · cases hstep
  | acknowledge a =>
    simp only [step?] at hstep
    split at hstep
    · rename_i hnext
      cases hstep
      obtain ⟨k, hk⟩ := Option.isSome_iff_exists.mp hnext.2
      rw [hk] at hnext
      obtain ⟨rest, hdue⟩ := List.head?_eq_some_iff.mp hnext.1.symm
      rw [hdue]
      exact .acknowledged hdue hk
    · cases hstep
  | publish a =>
    simp only [step?] at hstep
    split at hstep
    · rename_i hmessage
      cases hstep
      exact .published hmessage
    · cases hstep
  | peer p =>
    obtain ⟨contact, hcontact, rfl⟩ := Option.map_eq_some_iff.mp hstep
    exact .undergone hcontact

/-! ## What lasts -/

/-- What holds of a docket as long as its connection is not tainted. -/
structure Orderly (s : Docket) : Prop where
  outside : s.connection.inTransaction = false
  plain : s.connection.pipeline.active = false
  ruled : s.rulings.length ≤ s.asked.length
  due : s.due ≠ [] →
    s.rulings.getLast? = some true ∧ s.due.getLast? = some s.audience.size
  word : s.Answered →
    pushing s.answers = (decide (0 < s.audience.size) || s.rulings.getLast? == some false)
  /-- Once everything was answered and the last word heard, it decides on push mode. -/
  heard : ∃ read, Books s.answers s.underway (s.asked.map Change.command) read s.connection ∧
    (s.Answered → (∀ a ∈ s.answers.drop read, a.reply.isMessage) →
      s.connection.subscription.active = pushing s.answers)

theorem Orderly.start (settings : Settings) (stream : Stream) :
    (start settings stream).Orderly where
  outside := rfl
  plain := rfl
  ruled := Nat.le_refl 0
  due h := absurd rfl h
  word _ := rfl
  heard := ⟨0, Contact.books_start settings stream, fun _ _ => rfl⟩

/-- A word that the server says last has not been heard yet. -/
theorem heard_say {a : Answer} {read : Nat} {active : Bool} {answered : Prop}
    (hread : read ≤ s.answers.length) (hword : a.reply.isMessage = false) :
    answered → (∀ b ∈ (s.answers ++ [a]).drop read, b.reply.isMessage) →
      active = pushing (s.answers ++ [a]) := by
  intro _ hmessages
  rw [List.drop_append_of_le_length hread] at hmessages
  have hmessage := hmessages a (List.mem_append_right _ (List.mem_singleton.mpr rfl))
  rw [hword] at hmessage
  cases hmessage

theorem Orderly.grant {ch : Change} (hs : s.Orderly)
    (hch : s.asked[s.rulings.length]? = some ch) (hsome : (s.audience.change ch).1 ≠ []) :
    { s with
      rulings := s.rulings ++ [true]
      due := (s.audience.change ch).1
      audience := (s.audience.change ch).2 }.Orderly := by
  obtain ⟨read, hbooks, -⟩ := hs.heard
  refine ⟨hs.outside, hs.plain, ?_, ?_, ?_, read, hbooks, ?_⟩
  · obtain ⟨hlt, -⟩ := List.getElem?_eq_some_iff.mp hch
    rw [List.length_append]
    exact hlt
  · exact fun _ => ⟨List.getLast?_concat, Audience.getLast?_change hsome⟩
  · exact fun hanswered => absurd hanswered.2 hsome
  · exact fun hanswered => absurd hanswered.2 hsome

theorem Orderly.reject {a : Answer} (hs : s.Orderly) (hdue : s.due = [])
    (hnext : s.rulings.length < s.asked.length) (herror : a.reply.isError) :
    { s with
      toContact := s.toContact.say a
      rulings := s.rulings ++ [false] }.Orderly := by
  obtain ⟨read, hbooks, -⟩ := hs.heard
  obtain ⟨text, htext⟩ : ∃ text, a.reply = .error text := by
    cases hreply : a.reply with
    | error text => exact ⟨text, rfl⟩
    | _ => rw [hreply] at herror; cases herror
  have hcount : a.reply.count? = none := by rw [htext]; rfl
  have hword : a.reply.isMessage = false := by rw [htext]; rfl
  refine ⟨hs.outside, hs.plain, ?_, ?_, ?_, read, hbooks.say a, heard_say hbooks.read_le hword⟩
  · rw [List.length_append]
    exact hnext
  · exact fun hsome => absurd hdue hsome
  · intro _
    have hlast : pushing (s.answers ++ [a]) = true := by
      rw [pushing_word hword, hcount]
      rfl
    refine hlast.trans ?_
    rw [List.getLast?_concat]
    simp

theorem Orderly.acknowledge {a : Answer} {k : Nat} {rest : List Nat} (hs : s.Orderly)
    (hdue : s.due = k :: rest) (hcount : a.reply.count? = some k) :
    { s with toContact := s.toContact.say a, due := rest }.Orderly := by
  obtain ⟨read, hbooks, -⟩ := hs.heard
  have hword := not_isMessage_of_count hcount
  obtain ⟨hgranted, hlast⟩ := hs.due (by simp [hdue])
  rw [hdue, List.getLast?_cons] at hlast
  refine ⟨hs.outside, hs.plain, hs.ruled, ?_, ?_, read, hbooks.say a,
    heard_say hbooks.read_le hword⟩
  · intro hsome
    refine ⟨hgranted, ?_⟩
    rw [List.getLast?_eq_some_getLast hsome] at hlast ⊢
    exact hlast
  · rintro ⟨-, hnone⟩
    have hnone : rest = [] := hnone
    rw [hnone] at hlast
    have hsize : k = s.audience.size := Option.some.inj hlast
    have hpushing : pushing (s.answers ++ [a]) = decide (0 < k) := by
      rw [pushing_word hword, hcount]
      rfl
    refine hpushing.trans ?_
    rw [hsize, hgranted]
    simp

theorem Orderly.publish {a : Answer} (hs : s.Orderly) (hmessage : a.reply.isMessage) :
    { s with toContact := s.toContact.say a }.Orderly := by
  obtain ⟨read, hbooks, hheard⟩ := hs.heard
  have hpushing : pushing (s.answers ++ [a]) = pushing s.answers := pushing_message hmessage
  refine ⟨hs.outside, hs.plain, hs.ruled, hs.due, fun h => hpushing.trans (hs.word h), read,
    hbooks.say a, fun hanswered hmessages => (hheard hanswered ?_).trans hpushing.symm⟩
  have hmessages : ∀ b ∈ (s.answers ++ [a]).drop read, b.reply.isMessage := hmessages
  rw [List.drop_append_of_le_length hbooks.read_le] at hmessages
  exact (List.forall_mem_append.mp hmessages).1

theorem Orderly.undergo {p : Peer} {contact : Contact} (hs : s.Orderly)
    (hcontact : s.toContact.undergo? p = some contact) :
    { s with toContact := contact }.Orderly := by
  obtain ⟨read, hbooks, hheard⟩ := hs.heard
  obtain ⟨stream, underway, rfl, hstream⟩ := Contact.exists_of_undergo? hcontact
  exact ⟨hs.outside, hs.plain, hs.ruled, hs.due, hs.word, read, hstream hbooks, hheard⟩

theorem Orderly.operate {o : Operation} {broadcast : Broadcast} (hs : s.Orderly)
    (hclean : s.connection.taint = none) (hpermits : Broadcast.permits o = true)
    (hperform : s.toBroadcast.perform? o = some broadcast)
    (hclean' : broadcast.connection.taint = none) :
    { s with toBroadcast := broadcast }.Orderly := by
  obtain ⟨read, hbooks, hheard⟩ := hs.heard
  have hensures := Broadcast.operate_ensures hbooks hclean hpermits
  have hsame :
      Orderly { s with toBroadcast := { s.toBroadcast with connection := s.connection } } := hs
  have htook {c : Connection} {read' : Nat}
      (h : Took s.answers s.underway (s.asked.map Change.command) s.connection read read' c)
      (hactive : s.connection.subscription.active = true) :
      Orderly { s with toBroadcast := { s.toBroadcast with connection := c } } :=
    ⟨h.inTransaction.trans hs.outside, (congrArg Pipeline.active h.pipeline).trans hs.plain,
      hs.ruled, hs.due, hs.word, read', h.books, fun hanswered hmessages =>
        active_of_took h hactive (hheard hanswered) hmessages⟩
  unfold Broadcast.perform? at hperform
  split at hperform
  · rename_i v c hrun
    cases hperform
    cases hensures.ok_of_run hrun with
    | changed ch hchange hbooks' hinside hpipeline hactive =>
      -- the server has not answered this one
      have hunanswered : ¬ Answered { s with toBroadcast := { s.toBroadcast with
          connection := c, asked := s.asked ++ o.change?.toList } } := by
        rintro ⟨hruled, -⟩
        have hle := hs.ruled
        rw [hchange] at hruled
        simp only [Option.toList_some, List.length_append, List.length_singleton] at hruled
        omega
      refine ⟨hinside.trans hs.outside, (congrArg Pipeline.active hpipeline).trans hs.plain, ?_,
        hs.due, fun h => absurd h hunanswered, read, ?_, fun h => absurd h hunanswered⟩
      · exact Nat.le_trans hs.ruled (by simp)
      · rw [hchange, Option.toList_some, List.map_append]
        exact hbooks'
    | took read' hchange h hidle =>
      rw [hchange, Option.toList_none, List.append_nil]
      cases hactive : s.connection.subscription.active with
      | true => exact htook h hactive
      | false =>
        rw [hidle hactive]
        exact hsame
  · rename_i e c hrun
    cases hperform
    rcases (hensures.failed_of_run hrun).2 with ⟨rfl, -⟩ | htaints | ⟨hactive, read', h⟩
    · exact hsame
    · exact absurd hclean' htaints
    · exact htook h hactive
  · cases hperform

theorem clean_of_step {e : Event} (hstep : s.step? e = some s')
    (hclean' : s'.connection.taint = none) : s.connection.taint = none := by
  cases stepped_of_step hstep with
  | operated hpermits hperform =>
    cases htaint : s.connection.taint with
    | none => rfl
    | some reason =>
      have hsame := Broadcast.eq_of_perform_tainted htaint hpermits hperform
      rw [← htaint, ← hsame]
      exact hclean'
  | undergone hcontact =>
    obtain ⟨stream, underway, rfl, -⟩ := Contact.exists_of_undergo? hcontact
    exact hclean'
  | _ => exact hclean'

theorem Orderly.step {e : Event} (hs : s.Orderly) (hstep : s.step? e = some s')
    (hclean : s.connection.taint = none) (hclean' : s'.connection.taint = none) : s'.Orderly := by
  cases stepped_of_step hstep with
  | operated hpermits hperform => exact hs.operate hclean hpermits hperform hclean'
  | granted hch hsome => exact hs.grant hch hsome
  | rejected hdue hnext herror => exact hs.reject hdue hnext herror
  | acknowledged hdue hcount => exact hs.acknowledge hdue hcount
  | published hmessage => exact hs.publish hmessage
  | undergone hcontact => exact hs.undergo hcontact

theorem iterates : Iterates step? run? where
  nil _ := rfl
  cons s e events := by
    rw [run?]
    cases s.step? e <;> rfl

theorem Orderly.run {events : List Event} (hs : s.Orderly) (hrun : s.run? events = some s')
    (hclean : s'.connection.taint = none) : s'.Orderly :=
  iterates.keep clean_of_step (fun _ => True)
    (fun _ hs hstep hclean hclean' => hs.step hstep hclean hclean') (fun _ _ => trivial) hs hrun
    hclean

/-! ## Calls -/

/-- Outside of push mode, of pipelines and of transactions a call is never turned down, unless it is
    to change what is subscribed. -/
theorem call_willing {c : Connection} (hclean : c.taint = none)
    (hidle : c.subscription.active = false) (hplain : c.pipeline.active = false)
    (houtside : c.inTransaction = false) {q : Request}
    (hq : q.command.isSubscriptionChange = false) : (call q).Willing c := by
  refine Act.Ensures.usable hclean (.get (.guard (by simp [hidle]) fun _ => ?_))
  refine .guard (by simp [hq]) fun _ => .guard (by simp [hplain]) fun _ => ?_
  have hreply : (callReply q.command).Willing c := by
    apply Act.Willing.get
    rw [houtside]
    dsimp only
    split
    · refine .get (.guard (by simp [houtside]) fun _ => ?_)
      refine Act.Willing.seq (transmit_willing _) fun _ _ =>
        .seq readReply_willing fun r _ => ?_
      split
      · exact .pure r
      · exact .seq (.update _) fun _ _ => .pure r
    · simp only [Bool.and_false, Bool.false_eq_true, if_false]
      exact .seq (transmit_willing _) fun _ _ => readReply_willing
  exact Act.Willing.seq hreply fun r _ => project_willing _ r

/-- In push mode every call is turned down. -/
theorem call_refused {c : Connection} (hclean : c.taint = none)
    (hactive : c.subscription.active = true) (q : Request) :
    (call q).error? c = some (.usage (.whileSubscribed q.command.name)) := by
  have hends : (call q).Ends c (fun _ _ => False)
      (fun e _ => e = .usage (.whileSubscribed q.command.name)) fun _ => False :=
    .usable hclean (.get (.guard (fun _ => rfl) fun hidle => absurd hactive hidle))
  obtain ⟨e, c', hrun, rfl⟩ := hends.exists_error
  rw [Act.error?, hrun]

/-- Once the server has answered every change that it was asked for and the connection has read
    all of that, the connection is in push mode if and only if something is subscribed or the last
    change was turned down. In the one case every call is turned down, and in the other none is
    that changes no subscription. -/
theorem push_mode_of_answered {settings : Settings} {stream : Stream} {events : List Event}
    {n : Nat} (hrun : (start settings stream).run? events = some s)
    (hclean : s.connection.taint = none) (hruled : s.rulings.length = s.asked.length)
    (hdue : s.due = []) (hread : s.HasRead n)
    (hmessages : ∀ a ∈ s.answers.drop n, a.reply.isMessage) :
    (s.connection.subscription.active = true ↔
      0 < s.audience.size ∨ s.rulings.getLast? = some false) ∧
    (s.connection.subscription.active = false → ∀ q : Request,
      q.command.isSubscriptionChange = false →
        ∀ r, (call q).error? s.connection ≠ some (.usage r)) ∧
    (s.connection.subscription.active = true → ∀ q : Request,
      (call q).error? s.connection = some (.usage (.whileSubscribed q.command.name))) := by
  have hs := (Orderly.start settings stream).run hrun hclean
  obtain ⟨read, hbooks, hheard⟩ := hs.heard
  obtain rfl : n = read := hread.eq (Contact.hasRead_of_books hbooks)
  have hanswered : s.Answered := ⟨hruled, hdue⟩
  refine ⟨?_, fun hidle q hq r herror => ?_, fun hactive q => call_refused hclean hactive q⟩
  · rw [hheard hanswered hmessages, hs.word hanswered]
    simp
  · obtain ⟨c', hfailed⟩ := Act.exists_of_error? herror
    have hwilling := call_willing hclean hidle hs.plain hs.outside hq
    cases hwilling.failed_of_run hfailed

/-- A request to subscribe that is turned down, and one more that is granted and taken back. -/
def quarrel : List Event :=
  let refusal := Answer.ofReply (.error "NOPERM no permission") rfl
  let joined := Answer.ofReply (Broadcast.confirmation "subscribe" [121] 1) rfl
  let parted := Answer.ofReply (Broadcast.confirmation "unsubscribe" [121] 0) rfl
  [.operate (.subscribe [[97]]), .reject refusal, .peer (.deliver refusal.bytes),
    .operate .nextPush, .operate (.subscribe [[121]]), .grant, .acknowledge joined,
    .operate (.unsubscribe [[121]]), .grant, .acknowledge parted,
    .peer (.deliver (spell [joined, parted])), .operate (.listen .never)]

theorem push_mode_of_answered_quarrel : ∃ s,
    (start Settings.default (Stream.greeting [])).run? quarrel = some s ∧
    s.rulings = [false, true, true] ∧ s.connection.subscription.active = false ∧
    ∀ r, (call Catalog.ping).error? s.connection ≠ some (.usage r) := by
  have hend : ((start Settings.default (Stream.greeting [])).run? quarrel).map (fun s =>
      ((s.connection.taint, s.asked.length, s.rulings),
        (s.due, s.audience.size, decide (s.HasRead 3), s.answers.length))) =
      some ((none, 3, [false, true, true]), ([], 0, true, 3)) := by
    decide +kernel
  obtain ⟨s, hrun, hs⟩ := Option.map_eq_some_iff.mp hend
  simp only [Prod.mk.injEq, decide_eq_true_eq] at hs
  obtain ⟨⟨hclean, hasked, hrulings⟩, hdue, hsize, hread, hanswers⟩ := hs
  have hmessages : ∀ a ∈ s.answers.drop 3, a.reply.isMessage := by
    rw [List.drop_eq_nil_of_le (Nat.le_of_eq hanswers)]
    simp
  obtain ⟨hactive, hcalls, -⟩ :=
    push_mode_of_answered hrun hclean (by rw [hrulings, hasked]; rfl) hdue hread hmessages
  have hidle : s.connection.subscription.active = false := by
    rw [Bool.eq_false_iff, Ne, hactive, hsize, hrulings]
    decide
  exact ⟨s, hrun, hrulings, hidle, hcalls hidle Catalog.ping (by decide +kernel)⟩

/-- The only request was turned down and the answer has been read. Nothing is subscribed, and the
    connection is in push mode all the same and turns a call down. -/
theorem stranded : ∃ s,
    (start Settings.default (Stream.greeting [])).run? (quarrel.take 4) = some s ∧
    s.connection.taint = none ∧ s.Answered ∧ s.HasRead s.answers.length ∧ s.audience.size = 0 ∧
    s.connection.subscription.active = true ∧
    (call Catalog.ping).error? s.connection = some (.usage (.whileSubscribed "PING")) := by
  have hend : ((start Settings.default (Stream.greeting [])).run? (quarrel.take 4)).map (fun s =>
      ((s.connection.taint, decide (s.rulings.length = s.asked.length ∧ s.due = [])),
        (decide (s.HasRead s.answers.length), s.audience.size),
        (s.connection.subscription.active, (call Catalog.ping).error? s.connection))) =
      some ((none, true), (true, 0), (true, some (.usage (.whileSubscribed "PING")))) := by
    decide +kernel
  obtain ⟨s, hrun, hs⟩ := Option.map_eq_some_iff.mp hend
  simp only [Prod.mk.injEq, decide_eq_true_eq] at hs
  obtain ⟨⟨hclean, hanswered⟩, ⟨hread, hsize⟩, hactive, hrefused⟩ := hs
  exact ⟨s, hrun, hclean, hanswered, hread, hsize, hactive, hrefused⟩

end Docket

end RespLink
