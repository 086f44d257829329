import RespLink.Proofs.Stream.Answers

/-!
# The limit — which long answers are given up

The limit is on what is buffered of an unfinished frame, so whether a frame longer than that is
given up is decided by its arrival. It is *overdue* if a piece ends within it past the limit: then
the decoder looks at it unfinished, with more bytes there than it may hold. A long frame that
arrives at once never is.

This is all that decides it. Every stream is answers, one after the other, and something that no
frame begins (`Split`); what is decoded are the answers before the first that is overdue, which is
refused as too large. The induction is on the pieces. What is buffered between two of them is within
the limit and begins with no frame, so a piece only ever finishes answers that were not overdue, and
nothing but an overdue one can be refused that would still have become a frame.
-/

namespace RespLink

/-! ## A stream as answers -/

/-- A byte string as the answers that stand at its front, and what is left behind them. -/
structure Split (s : Bytes) (answers : List Answer) (rest : Bytes) : Prop where
  eq : s = spell answers ++ rest
  /-- No frame stands in front of the rest. -/
  ends : ∀ r tail, Reply.read rest ≠ .ok (r, tail)

theorem Split.of_cons {a : Answer} {s rest : Bytes} {answers : List Answer}
    (h : Split (a.bytes ++ s) answers rest) : ∃ more, answers = a :: more ∧ Split s more rest := by
  have hread : Reply.read (a.bytes ++ s) = .ok (a.reply, s) :=
    Reply.read_steady.ok_append s a.whole
  cases answers with
  | nil =>
    rw [h.eq] at hread
    exact absurd hread (h.ends a.reply s)
  | cons c more =>
    have hsplit : a.bytes ++ s = c.bytes ++ (spell more ++ rest) := by
      rw [h.eq, spell_cons, List.append_assoc]
    rw [hsplit, Reply.read_steady.ok_append _ c.whole] at hread
    injection hread with hread
    injection hread with hreply hs
    have hs : s = spell more ++ rest := hs.symm
    rw [hs] at hsplit
    have hbytes := List.append_cancel_right hsplit
    refine ⟨more, ?_, hs, h.ends⟩
    cases a
    cases c
    cases hreply
    cases hbytes
    rfl

theorem exists_split (s : Bytes) : ∃ answers rest, Split s answers rest := by
  induction hn : s.length using Nat.strongRecOn generalizing s with
  | ind n ih =>
    subst hn
    by_cases h : ∃ r tail, Reply.read s = .ok (r, tail)
    · obtain ⟨r, tail, hread⟩ := h
      obtain ⟨used, rfl, hused⟩ := Reply.read_steady.front hread
      have hpos := List.length_pos_iff.mpr (Reply.ne_nil_of_read hused)
      have hless : tail.length < (used ++ tail).length := by
        rw [List.length_append]
        omega
      obtain ⟨answers, rest, hsplit⟩ := ih _ hless tail rfl
      refine ⟨⟨r, used, hused⟩ :: answers, rest, ?_, hsplit.ends⟩
      rw [spell_cons, List.append_assoc, ← hsplit.eq]
    · exact ⟨[], s, rfl, fun r tail hread => h ⟨r, tail, hread⟩⟩

/-- With more behind it a byte string has the same answers at its front. -/
theorem Split.of_append {s rest x tail : Bytes} {answers all : List Answer}
    (h : Split s answers rest) (hall : Split (s ++ x) all tail) :
    ∃ more, all = answers ++ more ∧ Split (rest ++ x) more tail := by
  induction answers generalizing s all with
  | nil =>
    rw [h.eq] at hall
    exact ⟨all, rfl, hall⟩
  | cons a answers ih =>
    rw [h.eq, spell_cons, List.append_assoc, List.append_assoc] at hall
    obtain ⟨behind, rfl, hbehind⟩ := hall.of_cons
    rw [← List.append_assoc] at hbehind
    obtain ⟨more, rfl, hmore⟩ := ih ⟨rfl, h.ends⟩ hbehind
    exact ⟨more, rfl, hmore⟩

/-! ## Answers that are overdue -/

/-- Where an answer begins: how many bytes those before it have. -/
def startOf (answers : List Answer) (k : Nat) : Nat := (spell (answers.take k)).length

/-- When some of the pieces have arrived, more than `limit` bytes of answer number `k` are there,
    but not all. -/
def Overdue (limit : Nat) (pieces : List Bytes) (answers : List Answer) (k : Nat) : Prop :=
  ∃ arrived, arrived <+: pieces ∧ startOf answers k + limit < arrived.flatten.length ∧
    arrived.flatten.length < startOf answers (k + 1)

theorem startOf_append (answers more : List Answer) (k : Nat) :
    startOf (answers ++ more) (answers.length + k) = (spell answers).length + startOf more k := by
  rw [startOf, List.take_length_add_append, spell_append, List.length_append, startOf]

theorem startOf_le (answers more : List Answer) {k : Nat} (h : k ≤ answers.length) :
    startOf (answers ++ more) k ≤ (spell answers).length := by
  rw [startOf, List.take_append_of_le_length h]
  exact length_spell_le (List.take_sublist k answers)

theorem startOf_succ {answers : List Answer} {k : Nat} (h : k < answers.length) :
    startOf answers (k + 1) = startOf answers k + answers[k].bytes.length := by
  rw [startOf, List.take_succ_eq_append_getElem h, spell_append, List.length_append, spell_cons,
    spell_nil, List.append_nil, startOf]

variable {limit : Nat} {b t piece : Bytes} {pieces : List Bytes} {answers more : List Answer}
  {k : Nat}

/-- Only what is longer than the limit is ever overdue. -/
theorem Overdue.long (h : Overdue limit pieces answers k) (hk : k < answers.length) :
    limit < answers[k].bytes.length := by
  obtain ⟨arrived, -, hlimit, hend⟩ := h
  rw [startOf_succ hk] at hend
  omega

/-- An answer is overdue when something has arrived. -/
theorem overdue_cons_iff : Overdue limit (b :: pieces) answers k ↔
    ∃ arrived, arrived <+: pieces ∧ startOf answers k + limit < (b ++ arrived.flatten).length ∧
      (b ++ arrived.flatten).length < startOf answers (k + 1) := by
  constructor
  · rintro ⟨arrived, hprefix, hlimit, hend⟩
    rcases List.prefix_cons_iff.mp hprefix with rfl | ⟨arrived, rfl, htail⟩
    · exact absurd hlimit (Nat.not_lt_zero _)
    · exact ⟨arrived, htail, hlimit, hend⟩
  · rintro ⟨arrived, hprefix, hlimit, hend⟩
    exact ⟨b :: arrived, List.prefix_cons_iff.mpr (Or.inr ⟨arrived, rfl, hprefix⟩), hlimit, hend⟩

/-- No answer becomes overdue by a front that is within the limit. -/
theorem overdue_merge (h : b.length ≤ limit) :
    Overdue limit (b :: piece :: pieces) answers k ↔
      Overdue limit ((b ++ piece) :: pieces) answers k := by
  rw [overdue_cons_iff, overdue_cons_iff]
  constructor
  · rintro ⟨arrived, hprefix, hlimit, hend⟩
    rcases List.prefix_cons_iff.mp hprefix with rfl | ⟨arrived, rfl, htail⟩
    · rw [List.flatten_nil, List.append_nil] at hlimit
      omega
    · rw [List.flatten_cons, ← List.append_assoc] at hlimit hend
      exact ⟨arrived, htail, hlimit, hend⟩
  · rintro ⟨arrived, hprefix, hlimit, hend⟩
    refine ⟨piece :: arrived, List.prefix_cons_iff.mpr (Or.inr ⟨arrived, rfl, hprefix⟩), ?_, ?_⟩
    · rw [List.flatten_cons, ← List.append_assoc]
      exact hlimit
    · rw [List.flatten_cons, ← List.append_assoc]
      exact hend

/-- Answers that are there in full put off what is behind them. -/
theorem overdue_append_iff : Overdue limit ((spell answers ++ t) :: pieces) (answers ++ more)
    (answers.length + k) ↔ Overdue limit (t :: pieces) more k := by
  rw [overdue_cons_iff, overdue_cons_iff]
  have hlen (arrived : List Bytes) : (spell answers ++ t ++ arrived.flatten).length
      = (spell answers).length + (t ++ arrived.flatten).length := by
    rw [List.append_assoc, List.length_append]
  simp only [hlen, Nat.add_assoc, startOf_append, Nat.add_lt_add_iff_left]

theorem not_overdue_of_whole (answers : List Answer) (h : k < answers.length) :
    ¬ Overdue limit ((spell answers ++ t) :: pieces) (answers ++ more) k := by
  rw [overdue_cons_iff]
  rintro ⟨arrived, -, -, hend⟩
  have hstart : startOf (answers ++ more) (k + 1) ≤ (spell answers).length :=
    startOf_le answers more h
  rw [List.append_assoc, List.length_append] at hend
  omega

/-- What is decoded of a stream that holds these answers when it arrives in these pieces: the
    answers before the first overdue one, which is refused. -/
structure Passed (limit : Nat) (pieces : List Bytes) (answers : List Answer) (d : Drained) :
    Prop where
  replies : d.replies <+: answers.map Answer.reply
  timely : ∀ k < d.replies.length, ¬ Overdue limit pieces answers k
  overdue : d.replies.length < answers.length →
    Overdue limit pieces answers d.replies.length ∧ d.fault = some (.tooLarge limit)

theorem Passed.after {d : Drained} (answers : List Answer) (h : Passed limit (t :: pieces) more d) :
    Passed limit ((spell answers ++ t) :: pieces) (answers ++ more)
      (d.after (answers.map Answer.reply)) := by
  have hlen : (d.after (answers.map Answer.reply)).replies.length
      = answers.length + d.replies.length := by simp [Drained.after]
  refine ⟨?_, fun k hk => ?_, fun hshort => ?_⟩
  · rw [List.map_append]
    exact (List.prefix_append_right_inj _).mpr h.replies
  · rcases Nat.lt_or_ge k answers.length with hwhole | hbehind
    · exact not_overdue_of_whole answers hwhole
    · obtain ⟨j, rfl⟩ := Nat.exists_eq_add_of_le hbehind
      rw [overdue_append_iff]
      exact h.timely j (by omega)
  · rw [hlen, List.length_append] at hshort
    rw [hlen, overdue_append_iff]
    exact h.overdue (by omega)

theorem Passed.merge {d : Drained} (h : Passed limit ((b ++ piece) :: pieces) answers d)
    (hb : b.length ≤ limit) : Passed limit (b :: piece :: pieces) answers d where
  replies := h.replies
  timely k hk hover := h.timely k hk ((overdue_merge hb).mp hover)
  overdue hshort := ⟨(overdue_merge hb).mpr (h.overdue hshort).1, (h.overdue hshort).2⟩

/-- Before the first piece nothing has arrived. -/
theorem Passed.of_nil_cons {d : Drained} (h : Passed limit ([] :: pieces) answers d) :
    Passed limit pieces answers d where
  replies := h.replies
  timely k hk hover := h.timely k hk (overdue_cons_iff.mpr hover)
  overdue hshort := ⟨overdue_cons_iff.mp (h.overdue hshort).1, (h.overdue hshort).2⟩

/-- Where nothing is decoded, an answer that is still to come is overdue, or there is none. -/
theorem Passed.nothing {fault : Option FrameFault} {decoder : Decoder}
    (h : answers ≠ [] → Overdue limit pieces answers 0 ∧ fault = some (.tooLarge limit)) :
    Passed limit pieces answers ⟨[], fault, decoder⟩ where
  replies := List.nil_prefix
  timely k hk := absurd hk (Nat.not_lt_zero k)
  overdue hshort := h (List.ne_nil_of_length_pos hshort)

namespace Decoder

/-! ## What is decoded -/

theorem drain_of_split (limit : Nat) {s rest : Bytes} (h : Split s answers rest) :
    drain ⟨limit, s⟩ = (drain ⟨limit, rest⟩).after (answers.map Answer.reply) := by
  induction answers generalizing s with
  | nil =>
    rw [h.eq]
    rfl
  | cons a answers ih =>
    have hread : Reply.read (a.bytes ++ (spell answers ++ rest))
        = .ok (a.reply, spell answers ++ rest) := Reply.read_steady.ok_append _ a.whole
    rw [h.eq, spell_cons, List.append_assoc,
      drain_of_some (next_of_read (d := ⟨limit, _⟩) hread), ih ⟨rfl, h.ends⟩, Drained.after_after]
    rfl

/-- Where no frame stands in front, nothing is decoded: what is there may become a frame and is
    within the limit, or it is refused. What is refused and may become a frame has too many bytes.
    -/
theorem drain_of_ends (limit : Nat) {rest : Bytes} (h : ∀ r tail, Reply.read rest ≠ .ok (r, tail)) :
    drain ⟨limit, rest⟩ = ⟨[], none, ⟨limit, rest⟩⟩ ∧ rest.length ≤ limit ∨
    ∃ fault, drain ⟨limit, rest⟩ = ⟨[], some fault, ⟨limit, rest⟩⟩ ∧
      ∀ x r tail, Reply.read (rest ++ x) = .ok (r, tail) →
        fault = .tooLarge limit ∧ limit < rest.length := by
  cases hread : Reply.read rest with
  | ok p => exact absurd hread (h p.1 p.2)
  | error fault =>
    by_cases hfault : fault = .incomplete
    · subst hfault
      by_cases hlimit : rest.length ≤ limit
      · exact Or.inl ⟨drain_of_none (next_of_incomplete (d := ⟨limit, rest⟩) hread hlimit), hlimit⟩
      · have hlong : limit < rest.length := Nat.not_le.mp hlimit
        have hnext := next_of_overfull (d := ⟨limit, rest⟩) hread hlong
        exact Or.inr ⟨_, drain_of_fault hnext, fun _ _ _ _ => ⟨rfl, hlong⟩⟩
    · have hnext := next_of_fault (d := ⟨limit, rest⟩) hread hfault
      refine Or.inr ⟨fault, drain_of_fault hnext, fun x r tail hmore => ?_⟩
      rw [Reply.read_steady.error_append x hread hfault] at hmore
      cases hmore

/-- What is refused although it would have become an answer is overdue. -/
theorem passed_of_refused {rest tail : Bytes} {fault : FrameFault}
    (hends : ∀ r tail, Reply.read rest ≠ .ok (r, tail))
    (hfault : ∀ x r tail, Reply.read (rest ++ x) = .ok (r, tail) →
      fault = .tooLarge limit ∧ limit < rest.length)
    (h : Split (rest ++ pieces.flatten) answers tail) (decoder : Decoder) :
    Passed limit (rest :: pieces) answers ⟨[], some fault, decoder⟩ := by
  refine .nothing fun hne => ?_
  obtain ⟨a, more, rfl⟩ := List.exists_cons_of_ne_nil hne
  have hsplit : rest ++ pieces.flatten = a.bytes ++ (spell more ++ tail) := by
    rw [h.eq, spell_cons, List.append_assoc]
  have hread : Reply.read (rest ++ pieces.flatten) = .ok (a.reply, spell more ++ tail) := by
    rw [hsplit]
    exact Reply.read_steady.ok_append _ a.whole
  obtain ⟨rfl, hlong⟩ := hfault _ _ _ hread
  -- if all of the answer were there, it would have been read
  have hshort : rest.length < a.bytes.length := by
    refine Nat.lt_of_not_le fun hle => ?_
    obtain ⟨x, rfl⟩ := List.prefix_of_prefix_length_le ⟨_, hsplit.symm⟩ ⟨_, rfl⟩ hle
    exact hends _ _ (Reply.read_steady.ok_append x a.whole)
  refine ⟨overdue_cons_iff.mpr ⟨[], List.nil_prefix, ?_, ?_⟩, rfl⟩
  · simpa [startOf] using hlong
  · simpa [startOf] using hshort

theorem feedAll_passed {tail : Bytes} (hends : ∀ r tail, Reply.read b ≠ .ok (r, tail))
    (hlimit : b.length ≤ limit) (h : Split (b ++ pieces.flatten) answers tail) :
    Passed limit (b :: pieces) answers (feedAll ⟨limit, b⟩ pieces) := by
  induction pieces generalizing b answers with
  | nil =>
    refine .nothing fun hne => ?_
    obtain ⟨a, more, rfl⟩ := List.exists_cons_of_ne_nil hne
    rw [List.flatten_nil, List.append_nil] at h
    have hb := h.eq
    rw [spell_cons, List.append_assoc] at hb
    rw [hb] at hends
    exact absurd (Reply.read_steady.ok_append _ a.whole) (hends _ _)
  | cons piece pieces ih =>
    obtain ⟨first, rest, hfirst⟩ := exists_split (b ++ piece)
    rw [List.flatten_cons, ← List.append_assoc] at h
    obtain ⟨more, rfl, hmore⟩ := hfirst.of_append h
    have hdrain := drain_of_split limit hfirst
    have hfeed : feed ⟨limit, b⟩ piece = ⟨limit, b ++ piece⟩ := rfl
    have hstep {d : Drained} (hd : Passed limit (rest :: pieces) more d) :
        Passed limit (b :: piece :: pieces) (first ++ more)
          (d.after (first.map Answer.reply)) := by
      have hafter := hd.after first
      rw [← hfirst.eq] at hafter
      exact hafter.merge hlimit
    rw [feedAll, hfeed, hdrain]
    rcases drain_of_ends limit hfirst.ends with ⟨hquiet, hshort⟩ | ⟨fault, hquiet, hfault⟩
    · rw [hquiet]
      simpa [Drained.after] using hstep (ih hfirst.ends hshort hmore)
    · rw [hquiet]
      exact hstep (passed_of_refused hfirst.ends hfault hmore _)

/-- However a stream arrives, it is answers and something that no frame begins, and what is decoded
    of it are the answers before the first overdue one, which is refused as too large. Only an
    answer longer than the limit can be that. -/
theorem feedAll_refuses_overdue (limit : Nat) (pieces : List Bytes) :
    (∃ answers rest, Split pieces.flatten answers rest) ∧
    ∀ answers rest, Split pieces.flatten answers rest →
      Passed limit pieces answers ((empty limit).feedAll pieces) ∧
      ∀ (k : Nat) (_ : k < answers.length), Overdue limit pieces answers k →
        limit < answers[k].bytes.length := by
  refine ⟨exists_split _, fun answers rest h => ⟨?_, fun k hk hover => hover.long hk⟩⟩
  have hends (r : Reply) (tail : Bytes) : Reply.read [] ≠ .ok (r, tail) :=
    fun hread => Reply.ne_nil_of_read hread rfl
  exact (feedAll_passed hends (Nat.zero_le limit) h).of_nil_cons

/-- A text of nine bytes in a frame of fifteen. -/
def nineBytes : Answer :=
  ⟨.bulk [49, 50, 51, 52, 53, 54, 55, 56, 57],
    [36, 57, 13, 10, 49, 50, 51, 52, 53, 54, 55, 56, 57, 13, 10], rfl⟩

/-- The frame twice: once whole, and then in two parts. -/
def twice : List Bytes := [nineBytes.bytes ++ nineBytes.bytes.take 9, nineBytes.bytes.drop 9]

/-- With a limit of eight bytes the first is decoded and the second refused. -/
theorem feedAll_refuses_overdue_twice : Split twice.flatten [nineBytes, nineBytes] [] ∧
    ((empty 8).feedAll twice).replies = [nineBytes.reply] ∧
    ((empty 8).feedAll twice).fault = some (.tooLarge 8) := by
  have hsplit : Split twice.flatten [nineBytes, nineBytes] [] :=
    ⟨rfl, fun r tail hread => Reply.ne_nil_of_read hread rfl⟩
  obtain ⟨hpassed, -⟩ := (feedAll_refuses_overdue 8 twice).2 _ _ hsplit
  have hfirst : ¬ Overdue 8 twice [nineBytes, nineBytes] 0 :=
    not_overdue_of_whole [nineBytes] Nat.one_pos
  have hsecond : Overdue 8 twice [nineBytes, nineBytes] 1 :=
    overdue_cons_iff.mpr ⟨[], List.nil_prefix, by decide, by decide⟩
  have hsome : ((empty 8).feedAll twice).replies.length ≠ 0 := fun hnone =>
    hfirst (hnone ▸ (hpassed.overdue (by simp [hnone])).1)
  have hone : ((empty 8).feedAll twice).replies.length = 1 := by
    have hle := Nat.le_of_not_lt fun hmore => hpassed.timely 1 hmore hsecond
    omega
  refine ⟨hsplit, ?_, (hpassed.overdue (by simp [hone])).2⟩
  rw [List.prefix_iff_eq_take.mp hpassed.replies, hone]
  rfl

/-- A frame beyond the limit is decoded if it arrives at once, and refused if the decoder looks at
    it when nine of its bytes are there. -/
theorem long_frame_decoded : 8 < nineBytes.bytes.length ∧
    Reply.read nineBytes.bytes = .ok (nineBytes.reply, []) ∧
    ((empty 8).feed nineBytes.bytes).next = (.ok (some nineBytes.reply), empty 8) ∧
    ((empty 8).feed (nineBytes.bytes.take 9)).next
      = (.error (.tooLarge 8), (empty 8).feed (nineBytes.bytes.take 9)) :=
  ⟨by decide, rfl, rfl, rfl⟩

end Decoder

end RespLink
