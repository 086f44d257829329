import RespLink.Proofs.Stream.Answers

/-!
# Awaiting — which frame comes next, and when

`Inlet.Looked` says what it means that a frame was found. Here the question is when one is found,
and what comes instead. A frame is found if the whole of it has arrived. If not, the inlet waits or
says why there is nothing to wait for: the stream has ended, or the bytes are no frame, or more
bytes of an unfinished one are buffered than the limit allows. The last is the one case in which it
matters how the bytes were cut, for the inlet decides before it takes what has arrived since.

An inlet keeps two notes, whether its buffer may hold a frame and whether it has seen the end, and
trusts them. `Inlet.Fit` says that it may, and looking for a frame keeps that up as long as it does
not fail (`Inlet.Fit.next_found`).
-/

namespace RespLink

/-- Why a frame is given up that begins with these bytes. -/
inductive Spoilt (limit : Nat) (front : Bytes) : FrameFault → Prop
  | faulty {fault : FrameFault} (read : Reply.read front = .error fault)
    (final : fault ≠ .incomplete) : Spoilt limit front fault
  | tooLarge (read : Reply.read front = .error .incomplete) (long : limit < front.length) :
    Spoilt limit front (.tooLarge limit)

/-- What is buffered is a whole frame at the front, or it may become one, or it is given up. -/
theorem Decoder.next_reads (d : Decoder) :
    (∃ r left, Reply.read d.buffer = .ok (r, left) ∧
      d.next = (.ok (some r), { d with buffer := left })) ∨
    (Reply.read d.buffer = .error .incomplete ∧ d.next = (.ok none, d)) ∨
    ∃ fault, Spoilt d.limit d.buffer fault ∧ d.next = (.error fault, d) := by
  cases hread : Reply.read d.buffer with
  | ok taken => exact .inl ⟨taken.1, taken.2, rfl, next_of_read hread⟩
  | error fault =>
    by_cases hfinal : fault = .incomplete
    · subst hfinal
      rcases Nat.lt_or_ge d.limit d.buffer.length with hlong | hshort
      · refine .inr (.inr ⟨.tooLarge d.limit, .tooLarge hread hlong, ?_⟩)
        have hfull : d.buffer.isEmpty = false := by
          cases hbuffer : d.buffer with
          | nil => rw [hbuffer] at hlong; exact absurd hlong (Nat.not_lt_zero _)
          | cons b bytes => rfl
        simp only [next, hfull, hread, Bool.false_eq_true, if_false, if_pos hlong]
      · exact .inr (.inl ⟨rfl, next_of_incomplete hread hshort⟩)
    · exact .inr (.inr ⟨fault, .faulty hread hfinal, next_of_fault hread hfinal⟩)

namespace Inlet

/-- An inlet with a limit that has not failed, and whose notes are right. -/
structure Fit (i : Inlet) (limit : Nat) (s : Stream) : Prop where
  limit_eq : i.decoder.limit = limit
  sound : i.failed = false
  quiet : i.ready = false → i.decoder.next.1 = .ok none
  /-- Behind the end nothing arrives, and only what is in the buffer may be left to decode. -/
  seen : i.atEnd = true →
    s.ended = true ∧ s.arrived = [] ∧ (i.ready = false → i.decoder.buffer = [])

theorem fit_start (limit : Nat) (s : Stream) : (start limit).Fit limit s :=
  ⟨rfl, rfl, fun _ => rfl, fun h => by cases h⟩

/-- What is found in a stream, `unread` being what has arrived and was not read. -/
inductive Found (limit : Nat) (unread : Bytes) (ended : Bool) : Intake × Inlet × Stream → Prop
  | frame {r : Reply} {i : Inlet} {s : Stream} (fit : i.Fit limit s)
    (read : Reply.read unread = .ok (r, i.unread s)) : Found limit unread ended (.frame r, i, s)
  | pending {i : Inlet} {s : Stream} (fit : i.Fit limit s) (goesOn : ended = false)
    (read : Reply.read unread = .error .incomplete) : Found limit unread ended (.pending, i, s)
  | finished {i : Inlet} {s : Stream} (fit : i.Fit limit s) (closed : ended = true)
    (empty : unread = []) : Found limit unread ended (.finished, i, s)
  | cutOff {i : Inlet} {s : Stream} (closed : ended = true)
    (read : Reply.read unread = .error .incomplete) (full : unread ≠ []) :
    Found limit unread ended (.failure (.io .cutOff), i, s)
  | spoilt {fault : FrameFault} {i : Inlet} {s : Stream} (first : i.decoder.buffer <+: unread)
    (why : Spoilt limit i.decoder.buffer fault) :
    Found limit unread ended (.failure (.protocol fault), i, s)

variable {i : Inlet} {s : Stream} {limit : Nat}

theorem unread_of_arrived (h : s.arrived = []) : i.unread s = i.decoder.buffer := by
  rw [unread, h, List.append_nil]

/-- At the end of the stream the buffer is decoded as it is. -/
theorem atLast_found (hlimit : i.decoder.limit = limit) (hsound : i.failed = false)
    (hready : i.ready = true) (hended : s.ended = true) (harrived : s.arrived = []) :
    Found limit i.decoder.buffer s.ended (i.atLast.1, i.atLast.2, s) := by
  rcases i.decoder.next_reads with ⟨r, left, hread, hnext⟩ | ⟨hread, hnext⟩ | ⟨fault, hwhy, hnext⟩
  · simp only [atLast, hnext]
    have hfit : Fit { i with decoder := { i.decoder with buffer := left } } limit s :=
      ⟨hlimit, hsound, by simp [hready], fun _ => ⟨hended, harrived, by simp [hready]⟩⟩
    exact .frame hfit (by rw [unread_of_arrived harrived]; exact hread)
  · simp only [atLast, hnext]
    split
    · rename_i hempty
      rw [List.isEmpty_iff] at hempty
      have hquiet : i.decoder.next.1 = .ok none := by rw [hnext]
      have hseen : s.ended = true ∧ s.arrived = [] ∧ (false = false → i.decoder.buffer = []) :=
        ⟨hended, harrived, fun _ => hempty⟩
      exact .finished ⟨hlimit, hsound, fun _ => hquiet, fun _ => hseen⟩ hended hempty
    · rename_i hfull
      exact .cutOff hended hread (by simpa using hfull)
  · simp only [atLast, hnext]
    exact .spoilt (List.prefix_refl _) (hlimit ▸ hwhy)

/-- Where nothing more has arrived and the buffer holds no frame, one has to wait, or it is over. -/
theorem Fit.awaitMore_found (h : i.Fit limit s) (hready : i.ready = false)
    (harrived : s.arrived = []) : Found limit i.decoder.buffer s.ended (i.awaitMore s) := by
  unfold awaitMore
  split
  · rename_i hended
    split
    · rename_i hend
      exact .finished h hended ((h.seen hend).2.2 hready)
    · exact atLast_found (i := { i with atEnd := true, ready := true }) h.limit_eq h.sound rfl
        hended harrived
  · rename_i hopen
    have hquiet := h.quiet hready
    refine .pending h (by simpa using hopen) ?_
    rcases i.decoder.next_reads with ⟨r, left, -, hnext⟩ | ⟨hread, -⟩ | ⟨fault, -, hnext⟩
    · rw [hnext] at hquiet
      cases hquiet
    · exact hread
    · rw [hnext] at hquiet
      cases hquiet

/-- What is buffered is decoded first. `otherwise` goes on where that is no frame. -/
theorem decodeOr_found {otherwise : Inlet → Stream → Intake × Inlet × Stream}
    (hlimit : i.decoder.limit = limit) (hsound : i.failed = false) (hready : i.ready = true)
    (hend : i.atEnd = false) (h : Fit { i with ready := false } limit s →
      Found limit (i.unread s) s.ended (otherwise { i with ready := false } s)) :
    Found limit (i.unread s) s.ended (i.decodeOr s otherwise) := by
  rcases i.decoder.next_reads with ⟨r, left, hread, hnext⟩ | ⟨hread, hnext⟩ | ⟨fault, hwhy, hnext⟩
  · simp only [decodeOr, hnext]
    exact .frame ⟨hlimit, hsound, by simp [hready], by simp [hend]⟩
      (Reply.read_steady.ok_append s.arrived hread)
  · simp only [decodeOr, hnext]
    have hquiet : i.decoder.next.1 = .ok none := by rw [hnext]
    exact h ⟨hlimit, hsound, fun _ => hquiet, by simp [hend]⟩
  · simp only [decodeOr, hnext]
    exact .spoilt (List.prefix_append _ _) (hlimit ▸ hwhy)

theorem Fit.fetch_found (h : i.Fit limit s) (hready : i.ready = false) :
    Found limit (i.unread s) s.ended (i.fetch s) := by
  unfold fetch
  split
  · rename_i hempty
    rw [List.isEmpty_iff] at hempty
    rw [unread_of_arrived hempty]
    exact h.awaitMore_found hready hempty
  · -- everything that has arrived is in the buffer now
    have hunread : (i.decoder.feed s.arrived).buffer ++ [] = i.unread s := List.append_nil _
    rw [← hunread]
    refine decodeOr_found
      (i := { i with decoder := i.decoder.feed s.arrived, ready := true, atEnd := false })
      (s := { s with arrived := [] }) h.limit_eq h.sound rfl rfl fun hfit => ?_
    rw [unread, hunread]
    exact hfit.awaitMore_found rfl rfl

/-- Looking for the next frame finds it if it is there. The inlet is fit to look for the one after
    that, unless it has failed. -/
theorem Fit.next_found (h : i.Fit limit s) :
    Found limit (i.unread s) s.ended (i.next s) := by
  unfold next
  rw [h.sound]
  simp only [Bool.false_eq_true, if_false]
  split
  · rename_i hready
    split
    · rename_i hend
      obtain ⟨hended, harrived, -⟩ := h.seen hend
      rw [unread_of_arrived harrived]
      exact atLast_found h.limit_eq h.sound hready hended harrived
    · rename_i hend
      exact decodeOr_found h.limit_eq h.sound hready (by simpa using hend) fun hfit =>
        hfit.fetch_found rfl
  · rename_i hready
    exact h.fetch_found (by simpa using hready)

end Inlet

/-! ## Nothing but frames -/

/-- What has arrived is no whole frame of those that are to come. -/
def Short (arrived : Bytes) (answers : List Answer) : Prop :=
  ∀ a, answers.head? = some a → arrived.length < a.bytes.length

section

variable {arrived later remainder : Bytes} {answers : List Answer}

/-- A frame that is there as a whole would be read. -/
theorem length_lt_of_incomplete {a : Answer} {behind : Bytes}
    (h : arrived ++ later = a.bytes ++ behind)
    (hread : Reply.read arrived = .error .incomplete) : arrived.length < a.bytes.length := by
  refine Nat.lt_of_not_le fun hlong => ?_
  obtain ⟨left, hleft⟩ := List.prefix_of_prefix_length_le (List.prefix_append a.bytes behind)
    (h ▸ List.prefix_append arrived later) hlong
  rw [← hleft, Reply.read_steady.ok_append left a.whole] at hread
  cases hread

theorem short_of_read (h : arrived ++ later = spell answers)
    (hread : Reply.read arrived = .error .incomplete) : Short arrived answers := by
  intro a ha
  obtain ⟨rest, rfl⟩ := List.head?_eq_some_iff.mp ha
  rw [spell_cons] at h
  exact length_lt_of_incomplete h hread

/-- Where all that is to come is there and no whole frame of it, nothing is to come. -/
theorem eq_nil_of_short (h : arrived = spell answers) (hshort : Short arrived answers) :
    answers = [] := by
  cases answers with
  | nil => rfl
  | cons a rest =>
    have hlength := hshort a rfl
    rw [h, spell_cons, List.length_append] at hlength
    exact absurd hlength (by omega)

/-- What may still become the first answer, or what is left behind the last one, is given up for its
    length alone, while it is unfinished. -/
theorem unfinished_of_spoilt {limit : Nat} {fault : FrameFault}
    (h : arrived ++ later = spell answers ++ remainder)
    (hremainder : Reply.read remainder = .error .incomplete) (hwhy : Spoilt limit arrived fault) :
    fault = .tooLarge limit ∧ Reply.read arrived = .error .incomplete ∧
      limit < arrived.length := by
  cases hwhy with
  | faulty hread hfinal =>
    have hwhole := Reply.read_steady.error_append later hread hfinal
    rw [h] at hwhole
    cases answers with
    | nil =>
      rw [spell_nil, List.nil_append, hremainder] at hwhole
      cases hwhole
      exact absurd rfl hfinal
    | cons a rest =>
      rw [spell_cons, List.append_assoc, Reply.read_steady.ok_append _ a.whole] at hwhole
      cases hwhole
  | tooLarge hread hlong => exact ⟨rfl, hread, hlong⟩

/-- So it is longer than the limit. -/
theorem long_of_spoilt {limit : Nat} {fault : FrameFault}
    (h : arrived ++ later = spell answers ++ remainder)
    (hremainder : Reply.read remainder = .error .incomplete) (hwhy : Spoilt limit arrived fault) :
    fault = .tooLarge limit ∧
      limit < match answers.head? with
        | some a => a.bytes.length
        | none => remainder.length := by
  obtain ⟨hfault, hread, hlong⟩ := unfinished_of_spoilt h hremainder hwhy
  refine ⟨hfault, Nat.lt_of_lt_of_le hlong ?_⟩
  cases answers with
  | nil =>
    have hlength := congrArg List.length h
    rw [spell_nil, List.nil_append, List.length_append] at hlength
    exact hlength ▸ Nat.le_add_right _ _
  | cons a rest =>
    rw [spell_cons, List.append_assoc] at h
    exact Nat.le_of_lt (length_lt_of_incomplete h hread)

/-- Of a frame that comes in pieces more is buffered than the limit allows, and not all of it. -/
structure Overlong (limit : Nat) (buffer : Bytes) (a : Answer) : Prop where
  front : buffer <+: a.bytes
  unfinished : buffer.length < a.bytes.length
  long : limit < buffer.length

theorem Overlong.length {limit : Nat} {buffer : Bytes} {a : Answer} (h : Overlong limit buffer a) :
    limit < a.bytes.length := Nat.lt_trans h.long h.unfinished

/-- Frames are given up for their length alone, while they are unfinished. -/
theorem overlong_of_spoilt {limit : Nat} {fault : FrameFault}
    (h : arrived ++ later = spell answers) (hwhy : Spoilt limit arrived fault) :
    fault = .tooLarge limit ∧ ∃ a rest, answers = a :: rest ∧ Overlong limit arrived a := by
  rw [← List.append_nil (spell answers)] at h
  obtain ⟨hfault, hread, hlong⟩ := unfinished_of_spoilt h rfl hwhy
  refine ⟨hfault, ?_⟩
  cases answers with
  | nil =>
    have hnone : arrived = [] := (List.append_eq_nil_iff.mp h).1
    rw [hnone] at hlong
    exact absurd hlong (Nat.not_lt_zero _)
  | cons a rest =>
    rw [List.append_nil, spell_cons] at h
    have hshort := length_lt_of_incomplete h hread
    refine ⟨a, rest, rfl, ?_, hshort, hlong⟩
    exact List.prefix_of_prefix_length_le (h ▸ List.prefix_append arrived later)
      (List.prefix_append a.bytes (spell rest)) (Nat.le_of_lt hshort)

/-- What comes next where answers are to come, `later` being their bytes that have not arrived. -/
inductive Comes (limit : Nat) (ended : Bool) (unread later : Bytes) (answers : List Answer) :
    Intake × Inlet × Stream → Prop
  | frame {a : Answer} {rest : List Answer} {i : Inlet} {s : Stream} (first : answers = a :: rest)
    (fit : i.Fit limit s) (stays : s.ended = ended) (left : i.unread s ++ later = spell rest) :
    Comes limit ended unread later answers (.frame a.reply, i, s)
  | pending {i : Inlet} {s : Stream} (goesOn : ended = false) (fit : i.Fit limit s)
    (stays : s.ended = ended) (same : i.unread s = unread) (short : Short unread answers) :
    Comes limit ended unread later answers (.pending, i, s)
  | finished {i : Inlet} {s : Stream} (closed : ended = true) (stays : s.ended = ended)
    (same : i.unread s = unread) (lost : later = spell answers) :
    Comes limit ended unread later answers (.finished, i, s)
  | cutOff {i : Inlet} {s : Stream} (closed : ended = true) (stays : s.ended = ended)
    (lost : later ≠ []) : Comes limit ended unread later answers (.failure (.io .cutOff), i, s)
  | tooLarge {a : Answer} {rest : List Answer} {i : Inlet} {s : Stream}
    (first : answers = a :: rest) (long : Overlong limit i.decoder.buffer a)
    (same : i.unread s = unread) :
    Comes limit ended unread later answers (.failure (.protocol (.tooLarge limit)), i, s)

/-- Where nothing but answers comes, the next of them comes, or one has to wait for it, or it is too
    long, or the stream has ended before it. -/
theorem Inlet.Fit.next_comes {i : Inlet} {s : Stream} {limit : Nat} (h : i.Fit limit s)
    (hu : i.unread s ++ later = spell answers) :
    Comes limit s.ended (i.unread s) later answers (i.next s) := by
  have hfound := h.next_found
  have hlooked := i.next_looked s
  generalize i.next s = found at hfound hlooked
  have hstays : found.2.2.ended = s.ended := by
    obtain ⟨arrived, hstream⟩ := hlooked.stream
    rw [hstream]
  cases hfound with
  | frame fit read =>
    obtain ⟨a, rest, hfirst, rfl, hleft⟩ := exists_answer_of_read hu read
    exact .frame hfirst fit hstays hleft
  | pending fit goesOn read =>
    exact .pending goesOn fit hstays (hlooked.other (by simp)) (short_of_read hu read)
  | finished fit closed empty =>
    rw [empty, List.nil_append] at hu
    exact .finished closed hstays (hlooked.other (by simp)) hu
  | cutOff closed read full =>
    refine .cutOff closed hstays fun hlater => full ?_
    -- if all that is to come had arrived, it would not be cut off
    have hshort := short_of_read hu read
    rw [hlater, List.append_nil] at hu
    rw [hu, eq_nil_of_short hu hshort]
    rfl
  | spoilt first why =>
    obtain ⟨behind, hbehind⟩ := first
    rw [← hbehind, List.append_assoc] at hu
    obtain ⟨rfl, a, rest, hfirst, hlong⟩ := overlong_of_spoilt hu why
    exact .tooLarge hfirst hlong (hlooked.other (by simp))

end

end RespLink
