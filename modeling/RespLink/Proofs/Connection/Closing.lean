import RespLink.Proofs.Connection.Conversation
import RespLink.Proofs.Connection.Hearing
import RespLink.Proofs.Stream.Limit

/-!
# Closing — reading on until the stream ends, and after that

A caller who reads one reply after another does not see in which pieces they came, which of their
bytes were buffered already, or when the end of the stream was noticed. What a read answers is
settled by the bytes of the stream and by how many reads have ended before (`Reading.verdict`): the
frames come first, each once; then the end, which is a failure if anything is left behind the last
frame; and from then on every read is turned down. When a read ends is settled as well: as soon as
the frame that it is to answer is there as a whole, or the stream has ended.

The invariant is `Reading.Stage`. A read takes a stage to the next one or leaves it as it is, and
what the peer does leaves it.
-/

namespace RespLink

open Connection

/-- What a caller gets who asks for a reply: an error that the server reports is a failure. -/
def Reply.outcome : Reply → Except Error Reply
  | .error message => .error (.server message)
  | r => .ok r

theorem project_reply (r : Reply) : Shape.reply.project r = r.outcome := by cases r <;> rfl

/-- A read of a reply whose limit on waiting, if there is one, does not run out. Nothing is answered
    while the peer has to send more first. -/
def Connection.readInTime (c : Connection) : Option (Except Error Reply) × Connection :=
  match c.taint, c.inlet.next c.stream with
  | none, (.pending, inlet, stream) => (none, { c with inlet, stream })
  | _, _ =>
    match attempt (read .reply) c with
    | .ok outcome c' => (some outcome, c')
    | .error _ c' => (none, c')

/-- What happens while a caller reads. -/
inductive Moment where
  | read
  | peer (p : Peer)

/-- What the peer does, if it is the peer. -/
def Moment.peer? : Moment → Option Peer
  | .read => none
  | .peer p => some p

/-- What the peer does in all. -/
def Moment.arrivals (moments : List Moment) : List Peer := moments.filterMap peer?

/-- A connection, and what those reads have answered that have ended. -/
structure Reading where
  connection : Connection
  outcomes : List (Except Error Reply)

namespace Reading

def undergo (s : Reading) : Moment → Reading
  | .read => ⟨s.connection.readInTime.2, s.outcomes ++ s.connection.readInTime.1.toList⟩
  | .peer p =>
    { s with connection := { s.connection with stream := s.connection.stream.undergo p } }

/-- Reads that have to wait are asked again with the next moment to read. -/
def run (s : Reading) (moments : List Moment) : Reading := moments.foldl undergo s

/-- How reading ends when nothing but `remainder` is left of a stream that has ended. -/
def closing (remainder : Bytes) : Error :=
  if remainder = [] then .connectionClosed else .io .cutOff

/-- What is answered by the read that comes after `n` others have ended, if the stream holds
    `answers` and `remainder` behind them. -/
def verdict (answers : List Answer) (remainder : Bytes) (n : Nat) : Except Error Reply :=
  match answers[n]? with
  | some a => a.reply.outcome
  | none =>
    if n = answers.length then .error (closing remainder)
    else .error (.tainted (closing remainder).message)

variable {answers : List Answer} {remainder : Bytes} {n : Nat}

theorem verdict_of_get {a : Answer} (h : answers[n]? = some a) :
    verdict answers remainder n = a.reply.outcome := by
  rw [verdict, h]

theorem verdict_at_end : verdict answers remainder answers.length = .error (closing remainder) := by
  rw [verdict, List.getElem?_eq_none (Nat.le_refl _), if_pos rfl]

theorem verdict_behind (h : answers.length < n) :
    verdict answers remainder n = .error (.tainted (closing remainder).message) := by
  rw [verdict, List.getElem?_eq_none (Nat.le_of_lt h), if_neg (Nat.ne_of_gt h)]

end Reading

/-! ## One read -/

namespace Connection

open Act

variable {c c' : Connection} {inlet : Inlet} {stream : Stream}

theorem read_of_reply {r : Reply} (hclean : c.taint = none)
    (hnext : nextFrame c = .ok (.ok r) c') : attempt (read .reply) c = .ok r.outcome c' := by
  have hreply : readReply c = .ok r c' := by
    rw [readReply, bind_of_ok hnext]
    rfl
  have hread : read .reply c = project .reply r c' := by
    rw [read, bind_of_ok (ensureUsable_of_clean hclean), bind_of_ok hreply]
  rw [attempt, EStateM.run, hread, project, project_reply]
  cases r <;> rfl

theorem read_of_fault {e : Error} (hclean : c.taint = none)
    (hnext : nextFrame c = .ok (.error e) c') :
    attempt (read .reply) c = .ok (.error e) (c'.tainted e) := by
  have hreply : readReply c = .error (.failed e) (c'.tainted e) := by
    rw [readReply, bind_of_ok hnext]
    rfl
  have hread : read .reply c = .error (.failed e) (c'.tainted e) := by
    rw [read, bind_of_ok (ensureUsable_of_clean hclean), bind_of_error hreply]
  rw [attempt, EStateM.run, hread]

theorem readInTime_of_tainted {reason : String} (h : c.taint = some reason) :
    c.readInTime = (some (.error (.tainted reason)), c) := by
  have hread : read .reply c = .error (.failed (.tainted reason)) c :=
    bind_of_error (ensureUsable_of_tainted h)
  simp only [readInTime, h, attempt, EStateM.run, hread]

/-- Where there is no limit on waiting, nothing is left out of a read. -/
theorem readInTime_of_unlimited (h : c.settings.readTimeout = none) :
    c.readInTime =
      match attempt (read .reply) c with
      | .ok outcome c' => (some outcome, c')
      | .error _ c' => (none, c') := by
  unfold readInTime
  split
  · rename_i inlet stream hclean hnext
    have hwaits : nextFrame c = .error .waiting { c with inlet, stream } := by
      rw [nextFrame_eq hnext, h]
      rfl
    have hreply : readReply c = .error .waiting { c with inlet, stream } := bind_of_error hwaits
    have hread : read .reply c = .error .waiting { c with inlet, stream } := by
      rw [read, bind_of_ok (ensureUsable_of_clean hclean), bind_of_error hreply]
    rw [attempt, EStateM.run, hread]
  · rfl

/-- What a read does is what looking for the next frame leads to. -/
theorem readInTime_eq (hclean : c.taint = none) :
    c.readInTime =
      match c.inlet.next c.stream with
      | (.frame r, inlet, stream) => (some r.outcome, { c with inlet, stream })
      | (.failure e, inlet, stream) => (some (.error e), { c with inlet, stream }.tainted e)
      | (.finished, inlet, stream) =>
        (some (.error .connectionClosed), { c with inlet, stream }.tainted .connectionClosed)
      | (.pending, inlet, stream) => (none, { c with inlet, stream }) := by
  rw [readInTime, hclean]
  rcases hnext : c.inlet.next c.stream with ⟨intake, inlet, stream⟩
  cases intake with
  | frame r => simp only [read_of_reply hclean (nextFrame_eq hnext), hclean]
  | failure e => simp only [read_of_fault hclean (nextFrame_eq hnext), hclean]
  | finished => simp only [read_of_fault hclean (nextFrame_eq hnext), hclean]
  | pending => rfl

end Connection

/-! ## What can be read -/

/-- What can be read of a stream with a limit on its frames: `answers`, and a `remainder` that is
    not all of a frame. -/
structure Readable (limit : Nat) (answers : List Answer) (remainder : Bytes) : Prop where
  within : ∀ a ∈ answers, a.bytes.length ≤ limit
  unfinished : Reply.read remainder = .error .incomplete
  short : remainder.length ≤ limit

theorem Readable.drop {limit : Nat} {answers : List Answer} {remainder : Bytes}
    (h : Readable limit answers remainder) (n : Nat) : Readable limit (answers.drop n) remainder :=
  ⟨fun a ha => h.within a (List.mem_of_mem_drop ha), h.unfinished, h.short⟩

section

variable {arrived later remainder : Bytes} {answers : List Answer}

/-- Where no frame can be read of what is left, all of the answers were read. -/
theorem eq_length_of_incomplete {n : Nat} (hle : n ≤ answers.length)
    (h : arrived = spell (answers.drop n) ++ remainder)
    (hread : Reply.read arrived = .error .incomplete) :
    n = answers.length ∧ arrived = remainder := by
  cases hdrop : answers.drop n with
  | nil =>
    rw [hdrop] at h
    exact ⟨Nat.le_antisymm hle (List.drop_eq_nil_iff.mp hdrop), h⟩
  | cons a more =>
    rw [h, hdrop, spell_cons, List.append_assoc, Reply.read_steady.ok_append _ a.whole] at hread
    cases hread

/-- Nothing is given up of what can be read. -/
theorem Readable.not_spoilt {limit : Nat} {fault : FrameFault}
    (hreadable : Readable limit answers remainder)
    (h : arrived ++ later = spell answers ++ remainder) : ¬ Spoilt limit arrived fault := by
  intro hwhy
  obtain ⟨-, hlong⟩ := long_of_spoilt h hreadable.unfinished hwhy
  cases answers with
  | nil => exact Nat.not_lt.mpr hreadable.short hlong
  | cons a rest => exact Nat.not_lt.mpr (hreadable.within a List.mem_cons_self) hlong

end

/-! ## Stages -/

namespace Reading

open Moment (arrivals)

/-- What is left when `n` reads have ended and `underway` has not arrived yet. -/
inductive Stage (limit : Nat) (answers : List Answer) (remainder : Bytes) (n : Nat)
    (underway : Bytes) (c : Connection) : Prop
  | onward (sound : c.Sound fun i => i.Fit limit) (le : n ≤ answers.length)
    (left : c.inlet.unread c.stream ++ underway = spell (answers.drop n) ++ remainder)
  | past (behind : answers.length < n) (taint : c.taint = some (closing remainder).message)
    (ended : c.stream.ended = true)

/-- The read that comes after `n` others need not wait: the frame that it is to answer is there, or
    the stream has ended. -/
def Due (answers : List Answer) (n : Nat) (c : Connection) : Prop :=
  c.stream.ended = true ∨ ∃ a, answers[n]? = some a ∧ a.bytes <+: c.inlet.unread c.stream

variable {limit n : Nat} {answers : List Answer} {remainder underway : Bytes} {c : Connection}

theorem Stage.undergo {p : Peer} {rest : List Peer}
    (h : Stage limit answers remainder n (p.bytes ++ underway) c)
    (horderly : Peer.orderly c.stream.ended (p :: rest)) :
    Stage limit answers remainder n underway { c with stream := c.stream.undergo p } := by
  cases h with
  | onward sound le left =>
    refine .onward ⟨sound.clean, sound.connected, sound.wire.undergo horderly⟩ le ?_
    rw [Inlet.unread_undergo, List.append_assoc]
    exact left
  | past behind taint ended =>
    have hover : ([p].foldl Stream.undergo c.stream).ended = true := Stream.ended_foldl ended
    exact .past behind taint hover

/-- A read that need not wait answers as is settled, and another one waits. -/
theorem Stage.read (h : Stage limit answers remainder n underway c)
    (hreadable : Readable limit answers remainder)
    (hended : c.stream.ended = true → underway = []) :
    ∃ c', c'.stream.ended = c.stream.ended ∧
      ((Due answers n c ∧ c.readInTime = (some (verdict answers remainder n), c') ∧
        Stage limit answers remainder (n + 1) underway c') ∨
      (¬ Due answers n c ∧ c.readInTime = (none, c') ∧
        Stage limit answers remainder n underway c')) := by
  cases h with
  | past behind taint ended =>
    refine ⟨c, rfl, .inl ⟨.inl ended, ?_, .past (Nat.lt_succ_of_lt behind) taint ended⟩⟩
    rw [readInTime_of_tainted taint, verdict_behind behind]
  | onward sound le left =>
    have hfound := sound.wire.next_found
    have hread := readInTime_eq sound.clean
    have hlooked := c.inlet.next_looked c.stream
    generalize c.inlet.next c.stream = found at hfound hread hlooked
    have hstays : found.2.2.ended = c.stream.ended := by
      obtain ⟨arrived, hstream⟩ := hlooked.stream
      rw [hstream]
    cases hfound with
    | @frame r inlet stream fit read =>
      obtain ⟨a, more, hdrop, rfl, hfront, hleft⟩ :=
        exists_answer_before left hreadable.unfinished read
      obtain ⟨hmore, hlt⟩ := drop_succ_of_drop hdrop
      have ha := getElem?_of_drop hdrop
      rw [← hmore] at hleft
      -- the frame that was found is the answer, and the next stage begins behind it
      refine ⟨{ c with inlet, stream }, hstays, .inl ⟨.inr ⟨a, ha, _, hfront.symm⟩, ?_, ?_⟩⟩
      · rw [hread, verdict_of_get ha]
      · exact .onward ⟨sound.clean, sound.connected, fit⟩ hlt hleft
    | @pending inlet stream fit goesOn read =>
      have hsame := hlooked.other (by simp)
      refine ⟨{ c with inlet, stream }, hstays,
        .inr ⟨?_, hread, .onward ⟨sound.clean, sound.connected, fit⟩ le ?_⟩⟩
      · -- what is there is no whole frame, so not that of the answer either
        rintro (hover | ⟨a, -, behind, hprefix⟩)
        · rw [goesOn] at hover
          cases hover
        · rw [← hprefix, Reply.read_steady.ok_append behind a.whole] at read
          cases read
      · rw [← left, ← hsame]
    | @finished inlet stream fit closed empty =>
      rw [hended closed, List.append_nil] at left
      obtain ⟨rfl, hrest⟩ := eq_length_of_incomplete le left (by rw [empty]; rfl)
      -- nothing was left behind the last frame
      have hclosing : closing remainder = .connectionClosed := if_pos (hrest ▸ empty)
      refine ⟨{ c with inlet, stream }.tainted .connectionClosed, hstays,
        .inl ⟨.inl closed, by rw [hread, verdict_at_end, hclosing], ?_⟩⟩
      exact .past (Nat.lt_succ_self _) (by rw [hclosing]; rfl) (hstays.trans closed)
    | @cutOff inlet stream closed read full =>
      rw [hended closed, List.append_nil] at left
      obtain ⟨rfl, hrest⟩ := eq_length_of_incomplete le left read
      have hclosing : closing remainder = .io .cutOff := if_neg (hrest ▸ full)
      refine ⟨{ c with inlet, stream }.tainted (.io .cutOff), hstays,
        .inl ⟨.inl closed, by rw [hread, verdict_at_end, hclosing], ?_⟩⟩
      exact .past (Nat.lt_succ_self _) (by rw [hclosing]; rfl) (hstays.trans closed)
    | spoilt first why =>
      obtain ⟨behind, hbehind⟩ := first
      rw [← hbehind, List.append_assoc] at left
      exact absurd why ((hreadable.drop n).not_spoilt left)

/-- In how many bytes the frame ends that a read is to answer shows whether it need not wait. -/
theorem Stage.due_iff {arrived : Bytes} (h : Stage limit answers remainder n underway c)
    (hstream : arrived ++ underway = spell answers ++ remainder) :
    Due answers n c ↔
      c.stream.ended = true ∨ n < answers.length ∧ startOf answers (n + 1) ≤ arrived.length := by
  cases h with
  | past behind taint ended => exact ⟨fun _ => .inl ended, fun _ => .inl ended⟩
  | onward sound le left =>
    have hsplit : spell answers = spell (answers.take n) ++ spell (answers.drop n) := by
      rw [← spell_append, List.take_append_drop]
    rw [hsplit, List.append_assoc, ← left, ← List.append_assoc] at hstream
    have hlength : arrived.length = startOf answers n + (c.inlet.unread c.stream).length := by
      rw [List.append_cancel_right hstream, List.length_append, startOf]
    refine or_congr_right ⟨?_, ?_⟩
    · rintro ⟨a, ha, hprefix⟩
      obtain ⟨hlt, rfl⟩ := List.getElem?_eq_some_iff.mp ha
      have hle := hprefix.length_le
      refine ⟨hlt, ?_⟩
      rw [startOf_succ hlt]
      omega
    · rintro ⟨hlt, hle⟩
      refine ⟨answers[n], List.getElem?_eq_getElem hlt, ?_⟩
      rw [startOf_succ hlt] at hle
      have hwhole : answers[n].bytes <+: c.inlet.unread c.stream ++ underway := by
        rw [left, List.drop_eq_getElem_cons hlt, spell_cons, List.append_assoc]
        exact List.prefix_append _ _
      exact List.prefix_of_prefix_length_le hwhole (List.prefix_append _ _) (by omega)

/-! ## Moment by moment -/

/-- The reads have answered as is settled, and the connection is at that stage. -/
structure Upto (limit : Nat) (answers : List Answer) (remainder underway : Bytes) (s : Reading) :
    Prop where
  stage : Stage limit answers remainder s.outcomes.length underway s.connection
  outcomes : s.outcomes = (List.range s.outcomes.length).map (verdict answers remainder)

variable {s : Reading} {later : Bytes} {moments : List Moment}

theorem Upto.read (h : Upto limit answers remainder underway s)
    (hreadable : Readable limit answers remainder)
    (hended : s.connection.stream.ended = true → underway = []) :
    Upto limit answers remainder underway (s.undergo .read) ∧
      (s.undergo .read).connection.stream.ended = s.connection.stream.ended := by
  obtain ⟨c', hstays, ⟨-, hread, hstage⟩ | ⟨-, hread, hstage⟩⟩ := h.stage.read hreadable hended
  · have hmore :
        s.undergo .read = ⟨c', s.outcomes ++ [verdict answers remainder s.outcomes.length]⟩ := by
      rw [undergo, hread]
      rfl
    rw [hmore]
    refine ⟨⟨?_, ?_⟩, hstays⟩
    · rw [List.length_append]
      exact hstage
    · rw [List.length_append, List.length_singleton, List.range_succ, List.map_append, ← h.outcomes]
      rfl
  · have hsame : s.undergo .read = ⟨c', s.outcomes⟩ := by
      rw [undergo, hread]
      exact congrArg _ (List.append_nil _)
    rw [hsame]
    exact ⟨⟨hstage, h.outcomes⟩, hstays⟩

/-- Whatever happens meanwhile, the reads that end answer as is settled. -/
theorem Upto.run
    (h : Upto limit answers remainder ((arrivals moments).flatMap Peer.bytes ++ later) s)
    (hreadable : Readable limit answers remainder)
    (horderly : Peer.orderly s.connection.stream.ended (arrivals moments))
    (hlater : ((arrivals moments).foldl Stream.undergo s.connection.stream).ended = true →
      later = []) :
    Upto limit answers remainder later (s.run moments) ∧
      (s.run moments).connection.stream.ended =
        ((arrivals moments).foldl Stream.undergo s.connection.stream).ended := by
  induction moments generalizing s with
  | nil => exact ⟨h, rfl⟩
  | cons t rest ih =>
    cases t with
    | read =>
      -- once the stream has ended, nothing more is to come
      have hended (hover : s.connection.stream.ended = true) :
          (arrivals rest).flatMap Peer.bytes ++ later = [] := by
        rw [hlater (Stream.ended_foldl hover), List.append_nil]
        exact Peer.bytes_of_orderly (hover ▸ horderly)
      obtain ⟨hnext, hstays⟩ := h.read hreadable hended
      have hfinally :
          ((arrivals rest).foldl Stream.undergo (s.undergo .read).connection.stream).ended =
            ((arrivals rest).foldl Stream.undergo s.connection.stream).ended :=
        Stream.ended_foldl_congr hstays
      obtain ⟨hrun, hover⟩ :=
        ih hnext (hstays.symm ▸ horderly) fun hover => hlater (hfinally ▸ hover)
      exact ⟨hrun, hover.trans hfinally⟩
    | peer p =>
      have hnext : Upto limit answers remainder ((arrivals rest).flatMap Peer.bytes ++ later)
          (s.undergo (.peer p)) := by
        refine ⟨Stage.undergo ?_ horderly, h.outcomes⟩
        rw [← List.append_assoc]
        exact h.stage
      exact ih hnext (Stream.orderly_undergo horderly) hlater

end Reading

namespace Connection

open Reading
open Moment (arrivals)

variable {c : Connection}

/-- Dialling leads to a stream that is open, and sending the password is a call like any other. -/
theorem Reached.of_connect {settings : Settings} {network : Network}
    (h : connect settings network = .opened c) : c.Reached settings := by
  unfold connect at h
  split at h
  · cases h
  rename_i stream hdial
  split at h
  · rename_i hrun
    cases h
    change authenticate (ofStream stream settings) = .ok () c at hrun
    cases hpassword : settings.password with
    | none =>
      have hopen : authenticate (ofStream stream settings) = .ok () (ofStream stream settings) :=
        authenticate_of_no_password hpassword
      rw [hopen] at hrun
      cases hrun
      exact ⟨stream, [], rfl, rfl⟩
    | some password =>
      let auth : Operation := .call (Catalog.auth (Argument.ofText password))
      have hcall : (Deed.operate auth).act (ofStream stream settings) = .ok () c :=
        (authenticate_of_password hpassword).symm.trans hrun
      exact ⟨stream, [.deed (.operate auth)], rfl, Act.after_of_ok hcall⟩
  · cases h

/-- Reads from here on. -/
def reads (c : Connection) (moments : List Moment) : Reading := Reading.run ⟨c, []⟩ moments

/-- Reading to the end of the stream and beyond answers the frames of the stream, each once and in
    order, then that the stream is closed or was cut off, and then that the connection is tainted.
    In whatever pieces the stream arrives, a read waits only while the stream goes on and the frame
    that it is to answer is not there as a whole. -/
theorem reads_follow_stream {settings : Settings} {moments : List Moment} {answers : List Answer}
    {arrived later remainder : Bytes} (hc : c.Reached settings) (hclean : c.taint = none)
    (horderly : Peer.orderly c.stream.ended (arrivals moments) = true)
    (harrived : c.inlet.unread c.stream ++ (arrivals moments).flatMap Peer.bytes = arrived)
    (hstream : arrived ++ later = spell answers ++ remainder)
    (hlater : ((arrivals moments).foldl Stream.undergo c.stream).ended = true → later = [])
    (hreadable : Readable settings.maxFrameSize answers remainder) :
    (c.reads moments).outcomes =
      (List.range (c.reads moments).outcomes.length).map (verdict answers remainder) ∧
    (c.reads moments).connection.readInTime.1 =
      if ((arrivals moments).foldl Stream.undergo c.stream).ended = true ∨
          (c.reads moments).outcomes.length < answers.length ∧
            startOf answers ((c.reads moments).outcomes.length + 1) ≤ arrived.length
      then some (verdict answers remainder (c.reads moments).outcomes.length) else none := by
  have hstart : Upto settings.maxFrameSize answers remainder
      ((arrivals moments).flatMap Peer.bytes ++ later) ⟨c, []⟩ := by
    refine ⟨.onward (hc.sound hclean) (Nat.zero_le _) ?_, rfl⟩
    rw [← List.append_assoc, harrived]
    exact hstream
  obtain ⟨hupto, hended⟩ := hstart.run hreadable horderly hlater
  refine ⟨hupto.outcomes, ?_⟩
  obtain ⟨c', -, ⟨hdue, hread, -⟩ | ⟨hdue, hread, -⟩⟩ :=
    hupto.stage.read hreadable fun hover => hlater (hended ▸ hover)
  · rw [hupto.stage.due_iff hstream, hended] at hdue
    exact (congrArg Prod.fst hread).trans (if_pos hdue).symm
  · rw [hupto.stage.due_iff hstream, hended] at hdue
    exact (congrArg Prod.fst hread).trans (if_neg hdue).symm

/-- An error, and an array whose second item holds a line end. -/
def twoAnswers : List Answer :=
  [.ofReply (.error "E") rfl, .ofReply (.array [.integer (-1), .bulk Bytes.crlf]) rfl]

/-- The beginning of a text of five bytes. -/
def begun : Bytes := [36, 53, 13, 10, 104]

/-- Two frames and a part of one in three pieces, none of which ends where a frame does. -/
def threePieces : List Moment :=
  let bytes := spell twoAnswers ++ begun
  [.read, .peer (.deliver (bytes.take 7)), .read, .read,
    .peer (.deliver ((bytes.drop 7).take 12)), .read,
    .peer (.deliver (bytes.drop 19)), .read, .read, .peer .finish, .read, .read, .read]

theorem reads_follow_stream_threePieces :
    ((ofStream (Stream.greeting []) Settings.default).reads threePieces).outcomes =
      [.error (.server "E"), .ok (.array [.integer (-1), .bulk Bytes.crlf]), .error (.io .cutOff),
        .error (.tainted "io error: bytes remaining on stream"),
        .error (.tainted "io error: bytes remaining on stream")] := by
  have hreached : (ofStream (Stream.greeting []) Settings.default).Reached Settings.default :=
    .of_connect (connect_of_no_password (by decide) rfl)
  have horderly : Peer.orderly false (arrivals threePieces) = true := rfl
  have hstream : spell twoAnswers ++ begun ++ [] = spell twoAnswers ++ begun := List.append_nil _
  have hreadable : Readable Settings.default.maxFrameSize twoAnswers begun :=
    ⟨by decide +kernel, rfl, by decide +kernel⟩
  obtain ⟨hout, -⟩ :=
    reads_follow_stream hreached rfl horderly rfl hstream (fun _ => rfl) hreadable
  have hfive : ((ofStream (Stream.greeting []) Settings.default).reads threePieces).outcomes.length
      = 5 := by
    decide +kernel
  rw [hout, hfive]
  decide +kernel

end Connection

end RespLink
