import RespLink.Proofs.Connection.Dialogue

/-!
# Open transactions — whether the server queues what it is sent

A server opens a transaction when it accepts MULTI and closes it with EXEC or DISCARD. Nothing that
it sends says whether one is open; a connection has to work it out from what it sent and what was
answered, and keeps the result in a flag.

The commands that move the flag are those that the server moves for, since both look at the first
word alone (`Command.openAfter_eq`). The frame that is read for such a command is its own, since a
pipeline would have been in the way. So the flag is right (`mirrors_of_run`) as long as no such
command goes through a pipeline, where nobody looks at what it is: `flag_misses_multi` has an
ordinary command answered with the word that it was queued.
-/

namespace RespLink

namespace Command

variable {command : Command}

/-- Whether the first word of a command, as it is sent, is this one, in ASCII letters of either
    case. -/
def opensWith (command : Command) (word : String) : Bool :=
  (command.tokens.head?.bind Text.ofBytes?).map String.toUpper == some word

/-- Whether a server has a transaction open after it answered a command. -/
def openAfter (command : Command) (before : Bool) (r : Reply) : Bool :=
  if command.opensWith "MULTI" then before || !r.isError
  else if command.opensWith "EXEC" || command.opensWith "DISCARD" then false
  else before

/-- A command that no server opens or closes a transaction for. -/
def Plain (command : Command) : Prop := ∀ before r, command.openAfter before r = before

theorem opensWith_eq (h : command.words ≠ []) (word : String) :
    command.opensWith word = (command.keyword == word) := by
  unfold opensWith keyword tokens
  cases hwords : command.words with
  | nil => exact absurd hwords h
  | cons first rest => simp [Text.ofBytes?_toBytes]

/-- Server and client agree on which commands open and close transactions. -/
theorem openAfter_eq (h : command.words ≠ []) : command.openAfter = command.insideAfter := by
  funext before r
  simp only [openAfter, opensWith_eq h]
  rfl

theorem Plain.of_words (h : command.words ≠ []) (hother : command.isBracket = false) :
    command.Plain := by
  intro before r
  rw [openAfter_eq h]
  exact insideAfter_of_other hother before r

end Command

/-- Whether a server has a transaction open after it gave these answers to these commands. -/
def openedBy (accepted : List Command) (answers : List Answer) : Bool :=
  (accepted.zip answers).foldl (fun before (command, a) => command.openAfter before a.reply) false

section

variable {accepted : List Command} {answers : List Answer} {command : Command}

theorem openedBy_accept {a : Answer} (h : answers[accepted.length]? = some a) :
    openedBy (accepted ++ [command]) answers =
      command.openAfter (openedBy accepted answers) a.reply := by
  simp [openedBy, List.zip, zipWith_snoc_left, h]

theorem openedBy_accept_plain (h : command.Plain) :
    openedBy (accepted ++ [command]) answers = openedBy accepted answers := by
  cases hanswer : answers[accepted.length]? with
  | some a => rw [openedBy_accept hanswer, h]
  | none => simp [openedBy, List.zip, zipWith_snoc_left, hanswer]

theorem openedBy_answer_plain (a : Answer)
    (h : ∀ command ∈ accepted.drop answers.length, command.Plain) :
    openedBy accepted (answers ++ [a]) = openedBy accepted answers := by
  cases hcommand : accepted[answers.length]? with
  | none => simp [openedBy, List.zip, zipWith_snoc_right, hcommand]
  | some command =>
    have hplain : command.Plain := by
      refine h command (List.mem_of_getElem? (i := 0) ?_)
      rw [List.getElem?_drop, Nat.add_zero]
      exact hcommand
    have hsame := hplain (openedBy accepted answers) a.reply
    simpa [openedBy, List.zip, zipWith_snoc_right, hcommand] using hsame

end

namespace Dialogue

/-- Whether the server has a transaction open, by what it has answered. -/
def transactionOpen (s : Dialogue) : Bool := openedBy s.accepted s.answers

/-- Whether a command of an event has a name. -/
def Event.isNamed : Event → Bool
  | .deed d => d.command?.all fun command => !command.words.isEmpty
  | _ => true

/-- Whether an event puts nothing into a pipeline that opens or ends a transaction. -/
def Event.isPlain : Event → Bool
  | .deed (.operate (.write command)) => !command.isBracket
  | _ => true

open Connection

variable {s s' : Dialogue} {d : Deed} {done : Bool} {read : Nat} {c : Connection}
  {command : Command}

theorem Event.words_ne_nil (h : (Event.deed d).isNamed) (hcommand : d.command? = some command) :
    command.words ≠ [] := by
  simpa [isNamed, hcommand] using h

/-! ## What lasts -/

/-- The flag says what the server does, and no answer that is still to come will change that. -/
structure Mirrored (s : Dialogue) : Prop where
  flag : s.connection.inTransaction = s.transactionOpen
  plain : ∀ command ∈ s.accepted.drop s.answers.length, command.Plain

theorem Mirrored.start (settings : Settings) (stream : Stream) :
    (start settings stream).Mirrored where
  flag := rfl
  plain command h := absurd h (by simp [Dialogue.start])

theorem Mirrored.idles (hs : s.Mirrored) (hcommand : d.command? = none)
    (hinside : c.inTransaction = s.connection.inTransaction) : (s.note d done c).Mirrored := by
  have haccepted : (s.note d done c).accepted = s.accepted := by simp [note, hcommand]
  refine ⟨?_, ?_⟩
  · rw [transactionOpen, haccepted]
    exact hinside.trans hs.flag
  · rw [haccepted]
    exact hs.plain

/-- A command that the server does not open or close anything for. It may stay unanswered. -/
theorem Mirrored.accepts (hs : s.Mirrored) (hcommand : d.command? = some command)
    (hplain : command.Plain) (hinside : c.inTransaction = s.connection.inTransaction) :
    (s.note d done c).Mirrored := by
  have haccepted : (s.note d done c).accepted = s.accepted ++ [command] := by
    simp [note, hcommand]
  refine ⟨?_, ?_⟩
  · rw [transactionOpen, haccepted, openedBy_accept_plain hplain]
    exact hinside.trans hs.flag
  · rw [haccepted, List.drop_append]
    intro other hother
    rcases List.mem_append.mp hother with hbefore | hlast
    · exact hs.plain other hbefore
    · rw [List.mem_singleton.mp (List.mem_of_mem_drop hlast)]
      exact hplain

/-- A command whose own answer was read. -/
theorem Mirrored.answered (hs : s.Mirrored) (hcommand : d.command? = some command)
    (hwords : command.words ≠ [])
    (h : Exchanged s.answers s.underway s.accepted s.accepted.length s.connection command r c) :
    (s.note d done c).Mirrored := by
  have haccepted : (s.note d done c).accepted = s.accepted ++ [command] := by
    simp [note, hcommand]
  obtain ⟨a, ha, rfl⟩ := Option.map_eq_some_iff.mp h.reply
  refine ⟨?_, ?_⟩
  · rw [transactionOpen, haccepted]
    calc c.inTransaction = command.insideAfter s.connection.inTransaction a.reply :=
          h.inTransaction
      _ = command.openAfter s.transactionOpen a.reply := by
          rw [Command.openAfter_eq hwords, hs.flag]
      _ = openedBy (s.accepted ++ [command]) s.answers := (openedBy_accept ha).symm
  · have hall : (s.accepted ++ [command]).length ≤ s.answers.length := by
      rw [List.length_append, List.length_singleton]
      exact h.books.read_le
    have hnone : (s.note d done c).accepted.drop s.answers.length = [] := by
      rw [haccepted]
      exact List.drop_of_length_le hall
    intro other hother
    exact absurd (hnone ▸ hother) List.not_mem_nil

theorem Mirrored.moved (hs : s.Mirrored) (horderly : s.Orderly)
    (hnamed : (Event.deed d).isNamed) (hplain : (Event.deed d).isPlain)
    (hread : read + s.connection.pipeline.outstanding = s.accepted.length)
    (hmoved : Moved s read d c) : (s.note d done c).Mirrored := by
  cases hmoved with
  | exchanged command r hcommand hidle hqueued h =>
    have hwords := Event.words_ne_nil hnamed hcommand
    cases hqueues : d.queues with
    | false =>
      -- no pipeline is in the way, so the frame is the answer to this command
      have hown : read = s.accepted.length := by
        rw [← hread, (horderly.idle (hidle hqueues)).2, Nat.add_zero]
      subst hown
      exact hs.answered hcommand hwords h
    | true =>
      -- whatever frame was read, this command has nothing to do with the flag
      have hother := hqueued hqueues
      exact hs.accepts hcommand (.of_words hwords hother)
        (h.inTransaction.trans (Command.insideAfter_of_other hother _ r))
  | started hidle => exact hs.idles rfl rfl
  | written hactive hbooks hinside hpipeline =>
    rename_i command
    have hother : command.isBracket = false := by simpa [Event.isPlain] using hplain
    exact hs.accepts rfl (.of_words (Event.words_ne_nil hnamed rfl) hother) hinside
  | drained hcommand hbooks hmode houtgoing => exact hs.idles hcommand hmode.inTransaction
  | abandoned => exact hs.idles rfl rfl

theorem Mirrored.step {e : Event} (hs : s.Mirrored) (horderly : s.Orderly) (hnamed : e.isNamed)
    (hplain : e.isPlain) (hstep : Stepped s e s') : s'.Mirrored := by
  cases hstep with
  | refused => exact hs
  | moved read hpermits hbooks hread hmoved =>
    exact hs.moved horderly hnamed hplain hread hmoved
  | answered a =>
    refine ⟨hs.flag.trans (openedBy_answer_plain a hs.plain).symm, ?_⟩
    intro command hcommand
    refine hs.plain command ?_
    rw [show (s.toContact.say a).answers.length = s.answers.length + 1 from by simp [Contact.say],
      ← List.drop_drop] at hcommand
    exact List.mem_of_mem_drop hcommand
  | restreamed h => exact ⟨hs.flag, hs.plain⟩

/-! ## The flag and the server -/

/-- A connection knows whether its server has a transaction open. -/
structure Mirrors (s : Dialogue) : Prop where
  flag : s.connection.inTransaction = s.transactionOpen
  /-- What a call of an ordinary command answers with is the server's own answer to it, and not
      the word that it was queued. -/
  call : ∀ q v c, q.command.isBracket = false → Connection.call q s.connection = .ok v c →
    s.transactionOpen = false ∧
      ∃ r, (s.answers[s.accepted.length]?).map Answer.reply = some r ∧ q.parse r = .ok v

theorem Mirrored.mirrors (hs : s.Mirrored) (horderly : s.Orderly)
    (hclean : s.connection.taint = none) : s.Mirrors := by
  refine ⟨hs.flag, ?_⟩
  intro q v c hother hrun
  have houtside : s.connection.inTransaction = false :=
    outside_of_call hclean hother hrun
  obtain ⟨read, hbooks, hread⟩ := horderly.books
  obtain ⟨hidle, r, hexchanged, hparse⟩ := (anyCall_ensures hbooks hclean q).ok_of_run hrun
  have hown : read = s.accepted.length := by
    rw [← hread, (horderly.idle hidle).2, Nat.add_zero]
  refine ⟨hs.flag.symm.trans houtside, r, ?_, hparse houtside⟩
  rw [← hown]
  exact hexchanged.reply

/-- Whatever is done one after the other, as long as the connection is not tainted, its flag says
    whether the server has a transaction open, provided that nothing goes through a pipeline that
    opens or ends one. -/
theorem mirrors_of_run {settings : Settings} {stream : Stream} {events : List Event}
    (hnamed : ∀ e ∈ events, e.isNamed) (hplain : ∀ e ∈ events, e.isPlain)
    (hrun : (Dialogue.start settings stream).run? events = some s)
    (hclean : s.connection.taint = none) : s.Mirrors := by
  obtain ⟨horderly, hmirrored⟩ := keep_of_run Mirrored (fun e => e.isNamed ∧ e.isPlain)
    (fun h horderly hs hstep => hs.step horderly h.1 h.2 hstep)
    (fun e he => ⟨hnamed e he, hplain e he⟩) (.start settings stream) (.start settings stream)
    hrun hclean
  exact hmirrored.mirrors horderly hclean

/-- A transaction is opened and run through its handle. Another one is opened, its handle is
    dropped, and a pipeline is started in it. -/
def bracketed : List Event :=
  [.answer .ok, .answer .queued, .answer (.ofReply (.array []) rfl), .answer .ok,
    .peer (.deliver (spell [.ok, .queued, .ofReply (.array []) rfl, .ok])),
    .deed .multi, .deed (.operate (.queue Catalog.ping.command)), .deed (.exec ⟨1⟩),
    .deed .multi, .deed .abandon, .deed (.operate .startPipeline),
    .deed (.operate (.write (Catalog.get [107]).command))]

theorem mirrors_of_run_bracketed : ∃ settings stream s,
    (∀ e ∈ bracketed, e.isNamed) ∧ (∀ e ∈ bracketed, e.isPlain) ∧
    (Dialogue.start settings stream).run? bracketed = some s ∧ s.connection.taint = none ∧
    s.transactionOpen = true ∧ s.Mirrors := by
  have hend : ((Dialogue.start Settings.default (Stream.greeting [])).run? bracketed).map
      (fun s => (s.connection.taint, s.transactionOpen)) = some (none, true) := by
    decide +kernel
  have hnamed : ∀ e ∈ bracketed, e.isNamed := by decide +kernel
  have hplain : ∀ e ∈ bracketed, e.isPlain := by decide +kernel
  obtain ⟨s, hrun, hs⟩ := Option.map_eq_some_iff.mp hend
  rw [Prod.mk.injEq] at hs
  exact ⟨_, _, s, hnamed, hplain, hrun, hs.1, hs.2, mirrors_of_run hnamed hplain hrun hs.1⟩

/-- MULTI goes through a pipeline. -/
def smuggled : List Event :=
  [.answer .ok, .answer .queued, .peer (.deliver (spell [.ok, .queued])),
    .deed (.operate .startPipeline), .deed (.operate (.write Catalog.multi.command)),
    .deed (.operate .endPipeline)]

/-- The server has a transaction open and the connection does not know. A call then returns the
    word that the command was queued, as if that were the value of a key. -/
theorem flag_misses_multi : ∃ s : Dialogue,
    (Dialogue.start Settings.default (Stream.greeting [])).run? smuggled = some s ∧
    s.connection.taint = none ∧ s.connection.pipeline.outstanding = 0 ∧
    s.transactionOpen = true ∧ s.connection.inTransaction = false ∧
    Act.value? (α := Option Bytes) (Connection.call (Catalog.get [107])) s.connection =
      some (some (Text.toBytes "QUEUED")) := by
  have hend : ((Dialogue.start Settings.default (Stream.greeting [])).run? smuggled).map
      (fun s => (s.connection.taint, s.connection.pipeline.outstanding, s.transactionOpen,
        s.connection.inTransaction)) = some (none, 0, true, false) := by
    decide +kernel
  have hvalue : ((Dialogue.start Settings.default (Stream.greeting [])).run? smuggled).map
      (fun s => Act.value? (α := Option Bytes) (Connection.call (Catalog.get [107]))
        s.connection) = some (some (some (Text.toBytes "QUEUED"))) := by
    decide +kernel
  obtain ⟨s, hrun, hs⟩ := Option.map_eq_some_iff.mp hend
  rw [hrun, Option.map_some, Option.some.injEq] at hvalue
  simp only [Prod.mk.injEq] at hs
  obtain ⟨hclean, hdrained, hopen, hflag⟩ := hs
  exact ⟨s, hrun, hclean, hdrained, hopen, hflag, hvalue⟩

end Dialogue

end RespLink
