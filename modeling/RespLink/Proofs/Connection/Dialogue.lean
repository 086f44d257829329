import RespLink.Proofs.Connection.Exchange
import RespLink.Proofs.Connection.Session
import RespLink.Proofs.Connection.Taint
import RespLink.Proofs.Run

/-!
# Dialogues — transactions and pipelines on one connection

A session knows calls and pipelines. A dialogue has transactions as well: MULTI, EXEC and DISCARD
are called or done through a handle, which keeps everybody else from the connection as long as
somebody has it, and commands are queued. Frames are still read in the order in which commands
were accepted, so the books stay in order whatever is mixed with what (`Dialogue.Orderly`).

But the frame that is read is not always the answer to the command it is read for. A pipeline can
run while a transaction is open, and queueing does not mind: it reads the first frame that nobody
has read, and that answers the oldest command of the pipeline. From then on the pipeline is short
of that frame, and ends with one that is not its own. `InTurn` says which frame is read in every
case, and that it is the right one as long as nothing is queued while replies are owed;
`queue_overtakes` shows what happens otherwise.
-/

namespace RespLink

namespace Deed

/-- The command that a deed is to hand over to the server. -/
def command? : Deed → Option Command
  | .operate (.queue command) => some command
  | .operate o => o.command?
  | .multi => some Catalog.multi.command
  | .exec _ => some Catalog.exec.command
  | .discard _ => some Catalog.discard.command
  | .abandon => none

/-- Whether a deed is to queue a command. -/
def queues : Deed → Bool
  | .operate (.queue _) => true
  | _ => false

end Deed

/-- A contact in which transactions and pipelines are used, and what happened in it so far. -/
structure Dialogue extends Contact where
  /-- The commands that were not refused. -/
  accepted : List Command
  /-- Where among them those stand that were written since a pipeline was started last. -/
  places : List Nat
  /-- Whether a command was queued since then while replies were owed. -/
  overtaken : Bool
  /-- Whether somebody has the handle of a transaction. -/
  held : Bool

namespace Dialogue

def start (settings : Settings) (stream : Stream) : Dialogue :=
  { Contact.start settings stream with
    accepted := [], places := [], overtaken := false, held := false }

inductive Event where
  | deed (d : Deed)
  /-- The server answers the first command that it has not answered yet. -/
  | answer (a : Answer)
  | peer (p : Peer)

/-- Whether a deed can be done, which depends on who has the connection. -/
def permits (s : Dialogue) : Deed → Bool
  | .operate (.queue _) => true
  | .operate (.call _) | .operate .startPipeline | .operate (.write _) | .operate .endPipeline
  | .operate .endPipelineIgnored | .multi => !s.held
  | .operate _ => false
  | .exec _ | .discard _ | .abandon => s.held

/-- Where the commands of the running pipeline stand after a deed. -/
def placesAfter (s : Dialogue) : Deed → List Nat
  | .operate .startPipeline => []
  | .operate (.write _) => s.places ++ [s.accepted.length]
  | _ => s.places

/-- Whether the running pipeline has been overtaken after a deed. -/
def overtakenAfter (s : Dialogue) : Deed → Bool
  | .operate .startPipeline => false
  | d => s.overtaken || d.queues && s.connection.pipeline.outstanding != 0

/-- Whether somebody has a handle after a deed. -/
def heldAfter (s : Dialogue) (done : Bool) : Deed → Bool
  | .operate _ => s.held
  | .multi => done
  | .exec _ | .discard _ | .abandon => false

/-- The dialogue after a deed that was not refused, whether it was `done` or failed. -/
def note (s : Dialogue) (d : Deed) (done : Bool) (connection : Connection) : Dialogue :=
  { s with
    connection
    accepted := s.accepted ++ d.command?.toList
    places := s.placesAfter d
    overtaken := s.overtakenAfter d
    held := s.heldAfter done d }

/-- The dialogue after a deed, unless that has to wait. -/
def perform? (s : Dialogue) (d : Deed) : Option Dialogue :=
  match d.act s.connection with
  | .ok _ c => some (s.note d true c)
  | .error (.failed e) c =>
    some (if e.isRefusal then { s with connection := c } else s.note d false c)
  | .error .waiting _ => none

def step? (s : Dialogue) : Event → Option Dialogue
  | .deed d => if s.permits d then s.perform? d else none
  | .answer a => some { s with toContact := s.toContact.say a }
  | .peer p => (s.toContact.undergo? p).map fun contact => { s with toContact := contact }

def run? (s : Dialogue) : List Event → Option Dialogue
  | [] => some s
  | e :: events =>
    match s.step? e with
    | some s' => s'.run? events
    | none => none

open Connection

variable {s s' : Dialogue} {d : Deed} {read : Nat} {c : Connection}

/-! ## What deeds do -/

/-- What a deed that was not refused does to the connection, by the kinds of deed there are. -/
inductive Moved (s : Dialogue) (read : Nat) : Deed → Connection → Prop
  | exchanged {d : Deed} {c : Connection} (command : Command) (r : Reply)
      (hcommand : d.command? = some command)
      (hidle : d.queues = false → s.connection.pipeline.active = false)
      (hqueued : d.queues = true → command.isBracket = false)
      (h : Exchanged s.answers s.underway s.accepted read s.connection command r c) :
      Moved s read d c
  | started (hidle : s.connection.pipeline.active = false) :
      Moved s read (.operate .startPipeline) { s.connection with pipeline := ⟨true, 0⟩ }
  | written {command : Command} {c : Connection}
      (hactive : s.connection.pipeline.active = true)
      (hbooks : Books s.answers s.underway (s.accepted ++ [command]) read c)
      (hinside : c.inTransaction = s.connection.inTransaction)
      (hpipeline : c.pipeline = { s.connection.pipeline with
        outstanding := s.connection.pipeline.outstanding + 1 }) :
      Moved s read (.operate (.write command)) c
  | drained {d : Deed} {c : Connection} (hcommand : d.command? = none)
      (hbooks : Books s.answers s.underway s.accepted
        (read + s.connection.pipeline.outstanding) c)
      (hmode : SameMode { s.connection with pipeline := Pipeline.none } c)
      (houtgoing : c.outgoing = []) : Moved s read d c
  | abandoned : Moved s read .abandon s.connection

/-- How a deed that can be done fails: it was refused, or it has tainted the connection, or the
    frame that was read is of no use. -/
def Failed (s : Dialogue) (read : Nat) (d : Deed) (e : Error) (c : Connection) : Prop :=
  Refused s.connection e c ∨ Taints e c ∨ e.AboutReply ∧ Moved s read d c

/-- An exchange whose frame is of no use is an exchange all the same. -/
theorem Failed.of_missed {command : Command} {e : Error}
    (hmoved : ∀ r c, Exchanged s.answers s.underway s.accepted read s.connection command r c →
      Moved s read d c)
    (h : Missed s.answers s.underway s.accepted read s.connection command e c) :
    Failed s read d e c := by
  rcases h with hrefused | htaints | ⟨habout, r, hexchanged⟩
  · exact Or.inl hrefused
  · exact Or.inr (Or.inl htaints)
  · exact Or.inr (Or.inr ⟨habout, hmoved r c hexchanged⟩)

theorem call_moves (hbooks : Books s.answers s.underway s.accepted read s.connection)
    (hclean : s.connection.taint = none) {q : Request} (hcommand : d.command? = some q.command)
    (hqueues : d.queues = false) :
    (call q).Ensures s.connection (fun _ c => Moved s read d c) (Failed s read d) := by
  have hmoved (hidle : s.connection.pipeline.active = false) (r : Reply) (c : Connection)
      (h : Exchanged s.answers s.underway s.accepted read s.connection q.command r c) :
      Moved s read d c :=
    .exchanged q.command r hcommand (fun _ => hidle) (by simp [hqueues]) h
  refine (anyCall_ensures hbooks hclean q).mono ?_ ?_
  · rintro v c ⟨hidle, r, hexchanged, -⟩
    exact hmoved hidle r c hexchanged
  · rintro e c (hrefused | htaints | ⟨habout, hidle, r, hexchanged⟩)
    · exact Or.inl hrefused
    · exact Or.inr (Or.inl htaints)
    · exact Or.inr (Or.inr ⟨habout, hmoved hidle r c hexchanged⟩)

theorem queue_moves (hbooks : Books s.answers s.underway s.accepted read s.connection)
    (hclean : s.connection.taint = none) (command : Command) :
    (queue command).Ensures s.connection
      (fun _ c => Moved s read (.operate (.queue command)) c)
      (Failed s read (.operate (.queue command))) := by
  cases hbracket : command.isBracket with
  | true => exact (queue_refuses hclean hbracket).mono (fun _ _ h => h.elim) fun _ _ => Or.inl
  | false =>
    have hmoved (r : Reply) (c : Connection)
        (h : Exchanged s.answers s.underway s.accepted read s.connection command r c) :
        Moved s read (.operate (.queue command)) c :=
      .exchanged command r rfl (by simp [Deed.queues]) (fun _ => hbracket) h
    exact (queue_ensures hbooks hclean command).mono
      (fun status c hexchanged => hmoved _ c hexchanged) fun _ _ => .of_missed hmoved

/-- Whatever a deed is that can be done, it moves the connection or fails. -/
theorem deed_ensures (hbooks : Books s.answers s.underway s.accepted read s.connection)
    (hclean : s.connection.taint = none)
    (hheld : s.held = true → s.connection.pipeline.active = false)
    (hpermits : s.permits d = true) :
    d.act.Ensures s.connection (fun _ c => Moved s read d c) (Failed s read d) := by
  cases d with
  | operate o =>
    refine .bind ?_
    cases o with
    | call q =>
      exact (call_moves hbooks hclean rfl rfl).mono (fun _ _ h => .pure h) fun _ _ h => h
    | queue command =>
      exact (queue_moves hbooks hclean command).mono (fun _ _ h => .pure h) fun _ _ h => h
    | startPipeline =>
      refine (startPipeline_ensures hclean).mono ?_ fun _ _ h => Or.inl h
      rintro _ c ⟨hidle, rfl⟩
      exact .pure (.started hidle)
    | write command =>
      refine (write_ensures hbooks hclean command).mono ?_ fun _ _ h => h.imp_right Or.inl
      rintro _ c ⟨hb, hactive, -, hinside, hpipeline⟩
      exact .pure (.written hactive hb hinside hpipeline)
    | endPipeline =>
      refine (endPipeline_ensures hbooks hclean).mono ?_ fun _ _ h => h.imp_right Or.inl
      rintro rs c ⟨hb, -, hmode, hout, -⟩
      exact .pure (.drained rfl hb hmode hout)
    | endPipelineIgnored =>
      refine (endPipelineIgnored_ensures hbooks hclean).mono ?_ fun _ _ h => h.imp_right Or.inl
      rintro _ c ⟨hb, -, hmode, hout⟩
      exact .pure (.drained rfl hb hmode hout)
    | _ => cases hpermits
  | multi =>
    refine .bind (.bind ?_)
    exact (call_moves hbooks hclean rfl rfl).mono (fun _ _ h => .pure (.pure h)) fun _ _ h => h
  | exec t =>
    have hmoved (r : Reply) (c : Connection)
        (h : Exchanged s.answers s.underway s.accepted read s.connection Catalog.exec.command r c) :
        Moved s read (.exec t) c :=
      .exchanged _ r rfl (fun _ => hheld hpermits) (by simp [Deed.queues]) h
    exact .bind ((execute_ensures hbooks (by decide +kernel) (by decide +kernel)).mono
      (fun items c hexchanged => hmoved _ c hexchanged) fun _ _ => .of_missed hmoved)
  | discard t =>
    have hmoved (r : Reply) (c : Connection)
        (h : Exchanged s.answers s.underway s.accepted read s.connection Catalog.discard.command
          r c) : Moved s read (.discard t) c :=
      .exchanged _ r rfl (fun _ => hheld hpermits) (by simp [Deed.queues]) h
    refine (discard_ensures hbooks (by decide +kernel) (by decide +kernel)).mono ?_
      fun _ _ => .of_missed hmoved
    rintro _ c ⟨r, hexchanged⟩
    exact hmoved r c hexchanged
  | abandon => exact .pure .abandoned

/-! ## What lasts -/

/-- What holds in a dialogue as long as its connection is not tainted. -/
structure Orderly (s : Dialogue) : Prop where
  books : ∃ read, Books s.answers s.underway s.accepted read s.connection ∧
    read + s.connection.pipeline.outstanding = s.accepted.length
  idle : s.connection.pipeline.active = false →
    s.connection.outgoing = [] ∧ s.connection.pipeline.outstanding = 0
  held : s.held = true → s.connection.pipeline.active = false
  /-- What a pipeline owes are the replies to the commands that were accepted last. -/
  places : s.connection.pipeline.active = true → s.overtaken = false →
    s.places = List.range' (s.accepted.length - s.connection.pipeline.outstanding)
      s.connection.pipeline.outstanding

theorem Orderly.start (settings : Settings) (stream : Stream) :
    (start settings stream).Orderly where
  books := ⟨0, Contact.books_start settings stream, rfl⟩
  idle _ := ⟨rfl, rfl⟩
  held h := by cases h
  places h := by cases h

theorem exists_of_queues (h : d.queues = true) : ∃ command, d = .operate (.queue command) := by
  cases d with
  | operate o =>
    cases o with
    | queue command => exact ⟨command, rfl⟩
    | _ => cases h
  | _ => cases h

/-- One frame was read for one command. A pipeline that runs meanwhile stays as long as it is, and
    if it owes anything it has been overtaken. -/
theorem Orderly.exchanged {command : Command} {r : Reply} {done : Bool} (hs : s.Orderly)
    (hread : read + s.connection.pipeline.outstanding = s.accepted.length)
    (hcommand : d.command? = some command)
    (hidle : d.queues = false → s.connection.pipeline.active = false)
    (h : Exchanged s.answers s.underway s.accepted read s.connection command r c) :
    (s.note d done c).Orderly := by
  have haccepted : (s.note d done c).accepted = s.accepted ++ [command] := by
    simp [note, hcommand]
  have hlength : (s.note d done c).accepted.length = s.accepted.length + 1 := by
    rw [haccepted, List.length_append, List.length_singleton]
  have hpipeline : (s.note d done c).connection.pipeline = s.connection.pipeline := h.pipeline
  refine ⟨⟨read + 1, ?_, ?_⟩, ?_, ?_, ?_⟩
  · rw [haccepted]
    exact h.books
  · rw [hpipeline, hlength, ← hread]
    omega
  · rw [hpipeline]
    intro hactive
    exact ⟨h.outgoing, (hs.idle hactive).2⟩
  · rw [hpipeline]
    intro hheld
    cases hqueues : d.queues with
    | false => exact hidle hqueues
    | true =>
      obtain ⟨command, rfl⟩ := exists_of_queues hqueues
      exact hs.held hheld
  · rw [hpipeline, hlength]
    intro hactive hovertaken
    cases hqueues : d.queues with
    | false => exact absurd (hactive.symm.trans (hidle hqueues)) (by simp)
    | true =>
      obtain ⟨command, rfl⟩ := exists_of_queues hqueues
      have hovertaken : (s.overtaken || s.connection.pipeline.outstanding != 0) = false :=
        hovertaken
      rw [Bool.or_eq_false_iff, bne_eq_false_iff_eq] at hovertaken
      have hnone := hs.places hactive hovertaken.1
      rw [hovertaken.2] at hnone ⊢
      exact hnone

theorem Orderly.started {done : Bool} (hs : s.Orderly) (hfree : s.held = false)
    (hidle : s.connection.pipeline.active = false) :
    (s.note (.operate .startPipeline) done
      { s.connection with pipeline := ⟨true, 0⟩ }).Orderly := by
  obtain ⟨read, hbooks, hread⟩ := hs.books
  have haccepted (c : Connection) :
      (s.note (.operate .startPipeline) done c).accepted = s.accepted := List.append_nil _
  refine ⟨⟨read, ?_, ?_⟩, ?_, ?_, ?_⟩
  · rw [haccepted]
    exact ⟨hbooks.unread, hbooks.read_le, hbooks.sent⟩
  · rw [haccepted, ← hread, (hs.idle hidle).2]
    rfl
  · intro hidle'
    cases hidle'
  · intro hheld
    exact absurd (hfree.symm.trans hheld) (by simp)
  · intro _ _
    rfl

/-- A pipeline goes on: it owes one reply more, the one to the command accepted last. -/
theorem Orderly.written {command : Command} {done : Bool} (hs : s.Orderly)
    (hread : read + s.connection.pipeline.outstanding = s.accepted.length)
    (hactive : s.connection.pipeline.active = true)
    (hbooks : Books s.answers s.underway (s.accepted ++ [command]) read c)
    (hpipeline : c.pipeline = { s.connection.pipeline with
      outstanding := s.connection.pipeline.outstanding + 1 }) :
    (s.note (.operate (.write command)) done c).Orderly := by
  have hlength : (s.note (.operate (.write command)) done c).accepted.length =
      s.accepted.length + 1 := by
    show (s.accepted ++ [command]).length = _
    rw [List.length_append, List.length_singleton]
  have houtstanding : (s.note (.operate (.write command)) done c).connection.pipeline.outstanding =
      s.connection.pipeline.outstanding + 1 := congrArg Pipeline.outstanding hpipeline
  have hactive' : (s.note (.operate (.write command)) done c).connection.pipeline.active = true :=
    (congrArg Pipeline.active hpipeline).trans hactive
  refine ⟨⟨read, hbooks, ?_⟩, ?_, ?_, ?_⟩
  · rw [hlength, houtstanding, ← hread, Nat.add_assoc]
  · intro hidle
    exact absurd (hactive'.symm.trans hidle) (by simp)
  · intro hheld
    exact absurd (hactive.symm.trans (hs.held hheld)) (by simp)
  · intro _ hovertaken
    have hovertaken : (s.overtaken || false) = false := hovertaken
    rw [Bool.or_false] at hovertaken
    show s.places ++ [s.accepted.length] = _
    rw [hlength, houtstanding, hs.places hactive hovertaken, List.range'_concat,
      Nat.add_sub_add_right, Nat.one_mul]
    congr 2
    omega

theorem Orderly.drained {done : Bool} (hcommand : d.command? = none)
    (hread : read + s.connection.pipeline.outstanding = s.accepted.length)
    (hbooks : Books s.answers s.underway s.accepted
      (read + s.connection.pipeline.outstanding) c)
    (hmode : SameMode { s.connection with pipeline := Pipeline.none } c)
    (houtgoing : c.outgoing = []) : (s.note d done c).Orderly := by
  have haccepted : (s.note d done c).accepted = s.accepted := by simp [note, hcommand]
  have hpipeline : (s.note d done c).connection.pipeline = Pipeline.none := hmode.pipeline
  refine ⟨⟨read + s.connection.pipeline.outstanding, ?_, ?_⟩, ?_, ?_, ?_⟩
  · rw [haccepted]
    exact hbooks
  · rw [haccepted, hpipeline, hread]
    rfl
  · rw [hpipeline]
    exact fun _ => ⟨houtgoing, rfl⟩
  · rw [hpipeline]
    exact fun _ => rfl
  · rw [hpipeline]
    intro hactive
    cases hactive

/-- The handle of a transaction is dropped, which nobody else notices. -/
theorem Orderly.abandoned {done : Bool} (hs : s.Orderly) :
    (s.note .abandon done s.connection).Orderly := by
  have haccepted : (s.note .abandon done s.connection).accepted = s.accepted := List.append_nil _
  refine ⟨?_, hs.idle, ?_, ?_⟩
  · rw [haccepted]
    exact hs.books
  · intro hheld
    cases hheld
  · rw [haccepted]
    intro hactive hovertaken
    have hovertaken : (s.overtaken || false) = false := hovertaken
    rw [Bool.or_false] at hovertaken
    exact hs.places hactive hovertaken

theorem Orderly.moved {done : Bool} (hs : s.Orderly) (hpermits : s.permits d = true)
    (hread : read + s.connection.pipeline.outstanding = s.accepted.length)
    (hmoved : Moved s read d c) : (s.note d done c).Orderly := by
  cases hmoved with
  | exchanged command r hcommand hidle hqueued h => exact hs.exchanged hread hcommand hidle h
  | started hidle => exact hs.started (by simpa [permits] using hpermits) hidle
  | written hactive hbooks hinside hpipeline => exact hs.written hread hactive hbooks hpipeline
  | drained hcommand hbooks hmode houtgoing =>
    exact .drained hcommand hread hbooks hmode houtgoing
  | abandoned => exact hs.abandoned

/-- What is known of a step: either a deed was refused, or it moved the connection, or the
    connection is tainted, or the peer did something. -/
inductive Stepped (s : Dialogue) : Event → Dialogue → Prop
  | refused {d : Deed} : Stepped s (.deed d) s
  | moved {d : Deed} {done : Bool} {c : Connection} (read : Nat) (hpermits : s.permits d = true)
      (hbooks : Books s.answers s.underway s.accepted read s.connection)
      (hread : read + s.connection.pipeline.outstanding = s.accepted.length)
      (hmoved : Moved s read d c) : Stepped s (.deed d) (s.note d done c)
  | answered (a : Answer) : Stepped s (.answer a) { s with toContact := s.toContact.say a }
  | restreamed {p : Peer} {stream : Stream} {underway : Bytes}
      (h : ∀ {accepted : List Command} {read : Nat},
        Books s.answers s.underway accepted read s.connection →
        Books s.answers underway accepted read { s.connection with stream }) :
      Stepped s (.peer p) { s with connection := { s.connection with stream }, underway }

theorem Orderly.stepped {e : Event} (hs : s.Orderly) (hclean : s.connection.taint = none)
    (hstep : s.step? e = some s') (hclean' : s'.connection.taint = none) : Stepped s e s' := by
  cases e with
  | deed d =>
    obtain ⟨read, hbooks, hread⟩ := hs.books
    simp only [step?] at hstep
    split at hstep
    · rename_i hpermits
      have hensures := deed_ensures hbooks hclean hs.held hpermits
      unfold perform? at hstep
      split at hstep
      · rename_i v c hrun
        cases hstep
        exact .moved read hpermits hbooks hread (hensures.ok_of_run hrun)
      · rename_i e c hrun
        cases hstep
        rcases hensures.failed_of_run hrun with ⟨rfl, r, rfl⟩ | htaints | ⟨habout, hmoved⟩
        · exact .refused
        · refine absurd ?_ htaints
          split at hclean'
          · exact hclean'
          · exact hclean'
        · have hrefusal : e.isRefusal = false := by cases habout <;> rfl
          rw [hrefusal]
          exact .moved read hpermits hbooks hread hmoved
      · cases hstep
    · cases hstep
  | answer a =>
    cases hstep
    exact .answered a
  | peer p =>
    obtain ⟨contact, hcontact, rfl⟩ := Option.map_eq_some_iff.mp hstep
    obtain ⟨stream, underway, rfl, hbooks⟩ := Contact.exists_of_undergo? hcontact
    exact .restreamed hbooks

theorem Orderly.step {e : Event} (hs : s.Orderly) (hstep : Stepped s e s') : s'.Orderly := by
  cases hstep with
  | refused => exact hs
  | moved read hpermits hbooks hread hmoved => exact hs.moved hpermits hread hmoved
  | answered a =>
    obtain ⟨read, hbooks, hread⟩ := hs.books
    exact ⟨⟨read, hbooks.say a, hread⟩, hs.idle, hs.held, hs.places⟩
  | restreamed h =>
    obtain ⟨read, hbooks, hread⟩ := hs.books
    exact ⟨⟨read, h hbooks, hread⟩, hs.idle, hs.held, hs.places⟩

/-! ## Runs -/

theorem clean_of_step {e : Event} (hstep : s.step? e = some s')
    (hclean' : s'.connection.taint = none) : s.connection.taint = none := by
  refine Decidable.not_not.mp fun htaint => absurd hclean' ?_
  cases e with
  | deed d =>
    have hleaves := deed_leaves_tainted htaint d
    simp only [step?] at hstep
    split at hstep
    · unfold perform? at hstep
      split at hstep
      · rename_i v c hrun
        cases hstep
        exact hleaves.ok_of_run hrun
      · rename_i e c hrun
        cases hstep
        have hc := hleaves.error_of_run hrun
        split
        · exact hc
        · exact hc
      · cases hstep
    · cases hstep
  | answer a =>
    cases hstep
    exact htaint
  | peer p =>
    obtain ⟨contact, hcontact, rfl⟩ := Option.map_eq_some_iff.mp hstep
    obtain ⟨stream, underway, rfl, -⟩ := Contact.exists_of_undergo? hcontact
    exact htaint

theorem iterates : Iterates step? run? where
  nil _ := rfl
  cons s e events := by
    rw [run?]
    cases s.step? e <;> rfl

/-- What every step between untainted connections keeps is kept by a run that ends untainted. -/
theorem keep_of_run (P : Dialogue → Prop) (allowed : Event → Prop) {events : List Event}
    (hkeep : ∀ {s s' : Dialogue} {e : Event}, allowed e → s.Orderly → P s → Stepped s e s' → P s')
    (hallowed : ∀ e ∈ events, allowed e) (hs : s.Orderly) (hP : P s)
    (hrun : s.run? events = some s') (hclean : s'.connection.taint = none) :
    s'.Orderly ∧ P s' := by
  have hstep {s s' : Dialogue} {e : Event} (he : allowed e) (hs : s.Orderly ∧ P s)
      (hstep : s.step? e = some s') (hclean : s.connection.taint = none)
      (hclean' : s'.connection.taint = none) : s'.Orderly ∧ P s' := by
    have hstepped := hs.1.stepped hclean hstep hclean'
    exact ⟨hs.1.step hstepped, hkeep he hs.1 hs.2 hstepped⟩
  exact iterates.keep clean_of_step allowed hstep hallowed ⟨hs, hP⟩ hrun hclean

/-! ## In turn -/

/-- Which frames are read for what. -/
structure InTurn (s : Dialogue) : Prop where
  /-- A queued command is acknowledged by the frame at the place of the first command that is owed
      its reply, and that is the command itself if nothing is owed. -/
  queue : ∀ command status c, Connection.queue command s.connection = .ok status c →
    ∃ n, n + s.connection.pipeline.outstanding = s.accepted.length ∧
      (s.answers[n]?).map Answer.reply = some (.status status)
  /-- A pipeline that was not overtaken ends with the frames of its own commands, each in its
      place. -/
  endPipeline : ∀ rs c, Connection.endPipeline s.connection = .ok rs c → s.overtaken = false →
    rs.map some = s.places.map fun n => (s.answers[n]?).map Answer.reply

theorem map_some_take_drop (answers : List Answer) {n count : Nat}
    (h : n + count ≤ answers.length) :
    (((answers.drop n).take count).map Answer.reply).map some =
      (List.range' n count).map fun n => (answers[n]?).map Answer.reply := by
  induction count generalizing n with
  | zero => simp
  | succ count ih =>
    have hlt : n < answers.length := by omega
    have hrest := ih (n := n + 1) (by omega)
    rw [List.range'_succ, List.drop_eq_getElem_cons hlt, List.take_succ_cons]
    simp only [List.map_cons, hrest, List.getElem?_eq_getElem hlt, Option.map_some]

theorem Orderly.inTurn (hs : s.Orderly) (hclean : s.connection.taint = none) : s.InTurn := by
  obtain ⟨read, hbooks, hread⟩ := hs.books
  constructor
  case queue =>
    intro command status c hrun
    have hexchanged := (queue_ensures hbooks hclean command).ok_of_run hrun
    exact ⟨read, hread, hexchanged.reply⟩
  case endPipeline =>
    intro rs c hrun hovertaken
    obtain ⟨hbooks', hactive, -, -, hrs⟩ := (endPipeline_ensures hbooks hclean).ok_of_run hrun
    have hfirst : s.accepted.length - s.connection.pipeline.outstanding = read := by omega
    rw [hrs, hs.places hactive hovertaken, hfirst]
    exact map_some_take_drop s.answers hbooks'.read_le

theorem Orderly.run {events : List Event} (hs : s.Orderly) (hrun : s.run? events = some s')
    (hclean : s'.connection.taint = none) : s'.Orderly :=
  (keep_of_run (fun _ => True) (fun _ => True) (fun _ _ _ _ => trivial) (fun _ _ => trivial) hs
    trivial hrun hclean).1

/-- Whatever is done one after the other, as long as the connection is not tainted, a command that
    is queued while nothing is owed gets its own acknowledgement, and a pipeline in which nothing
    else was queued gets its own replies. -/
theorem inTurn_of_run {settings : Settings} {stream : Stream} {events : List Event}
    (hrun : (Dialogue.start settings stream).run? events = some s)
    (hclean : s.connection.taint = none) : s.InTurn :=
  ((Orderly.start settings stream).run hrun hclean).inTurn hclean

/-- A pipeline is started inside a transaction, a command is queued before anything is written to
    it, and two are written. The last answer arrives in two parts. -/
def interleaved : List Event :=
  [.deed (.operate (.queue Catalog.ping.command)), .answer .ok, .answer .queued,
    .answer .queued, .answer .queued,
    .peer (.deliver (Answer.ok.bytes ++ Answer.queued.bytes ++ Answer.queued.bytes ++ [43, 81])),
    .deed (.operate (.call Catalog.multi)), .deed (.operate .startPipeline),
    .deed (.operate (.queue Catalog.ping.command)),
    .deed (.operate (.write (Catalog.get [107]).command)),
    .deed (.operate (.write (Catalog.incr [107]).command)),
    .peer (.deliver [85, 69, 85, 69, 68, 13, 10])]

theorem inTurn_of_run_interleaved : ∃ settings stream s,
    (Dialogue.start settings stream).run? interleaved = some s ∧ s.connection.taint = none ∧
    s.accepted = [Catalog.multi.command, Catalog.ping.command, (Catalog.get [107]).command,
      (Catalog.incr [107]).command] ∧
    s.overtaken = false ∧
    Connection.endPipeline.value? s.connection =
      some [Answer.queued.reply, Answer.queued.reply] ∧ s.InTurn := by
  have hend : ((Dialogue.start Settings.default (Stream.greeting [])).run? interleaved).map
      (fun s => (s.connection.taint, s.accepted, s.overtaken,
        Connection.endPipeline.value? s.connection)) =
      some (none, [Catalog.multi.command, Catalog.ping.command, (Catalog.get [107]).command,
        (Catalog.incr [107]).command], false,
        some [Answer.queued.reply, Answer.queued.reply]) := by
    decide +kernel
  obtain ⟨s, hrun, hs⟩ := Option.map_eq_some_iff.mp hend
  simp only [Prod.mk.injEq] at hs
  obtain ⟨hclean, haccepted, hovertaken, hvalue⟩ := hs
  exact ⟨_, _, s, hrun, hclean, haccepted, hovertaken, hvalue, inTurn_of_run hrun hclean⟩

/-- What a server answers to a command that it does not know. -/
def unknown : Answer := .ofReply (.error "ERR unknown") rfl

/-- Inside a transaction a command is written to a pipeline, and its answer is not read yet. -/
def overtaking : List Event :=
  [.answer .ok, .answer .queued, .answer unknown,
    .peer (.deliver (Answer.ok.bytes ++ Answer.queued.bytes ++ unknown.bytes)),
    .deed (.operate (.call Catalog.multi)), .deed (.operate .startPipeline),
    .deed (.operate (.write (Catalog.get [107]).command))]

/-- A command of which the server knows nothing. -/
def unheardOf : Command := ⟨"FOO", []⟩

/-- A command that the server has rejected is reported as queued, with the word that was meant for
    the command in the pipeline; and the pipeline ends with the rejection. -/
theorem queue_overtakes : ∃ s : Dialogue,
    (Dialogue.start Settings.default (Stream.greeting [])).run? overtaking = some s ∧
    s.connection.taint = none ∧
    (s.places.map fun n => (s.answers[n]?).map Answer.reply) = [some Answer.queued.reply] ∧
    (s.answers[s.accepted.length]?).map Answer.reply = some unknown.reply ∧
    (Connection.queue unheardOf).value? s.connection = some "QUEUED" ∧
    Connection.endPipeline.value? ((Connection.queue unheardOf).after s.connection) =
      some [unknown.reply] := by
  have hend : ((Dialogue.start Settings.default (Stream.greeting [])).run? overtaking).map
      (fun s => (s.connection.taint, s.places.map fun n => (s.answers[n]?).map Answer.reply,
        (s.answers[s.accepted.length]?).map Answer.reply)) =
      some (none, [some Answer.queued.reply], some unknown.reply) := by
    decide +kernel
  have hvalues : ((Dialogue.start Settings.default (Stream.greeting [])).run? overtaking).map
      (fun s => ((Connection.queue unheardOf).value? s.connection,
        Connection.endPipeline.value? ((Connection.queue unheardOf).after s.connection))) =
      some (some "QUEUED", some [unknown.reply]) := by
    decide +kernel
  obtain ⟨s, hrun, hs⟩ := Option.map_eq_some_iff.mp hend
  rw [hrun, Option.map_some, Option.some.injEq] at hvalues
  simp only [Prod.mk.injEq] at hs hvalues
  obtain ⟨hclean, hplaces, hown⟩ := hs
  exact ⟨s, hrun, hclean, hplaces, hown, hvalues⟩

end Dialogue

end RespLink
