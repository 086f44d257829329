import RespLink.Frame.Writer
import RespLink.Proofs.Frame.Cutting
import RespLink.Stream.Inlet

/-!
# Answers — what a server says, and how much of it was read

A server says one frame after the other. How much of that a client has read is never written
down; it shows in what is left. The bytes that an inlet has not read yet, wherever they are, are
the spelling of the answers that it has not read yet, and taking the next frame takes exactly the
first of them.

The bytes may still be on their way, so the statement is about any that arrive later as well.
-/

namespace RespLink

theorem getElem?_of_drop {α : Type} {l rest : List α} {a : α} {n : Nat}
    (h : l.drop n = a :: rest) : l[n]? = some a := by
  have hfirst : (l.drop n)[0]? = some a := by rw [h, List.getElem?_cons_zero]
  rwa [List.getElem?_drop, Nat.add_zero] at hfirst

theorem drop_succ_of_drop {α : Type} {l rest : List α} {a : α} {n : Nat}
    (h : l.drop n = a :: rest) : l.drop (n + 1) = rest ∧ n < l.length := by
  constructor
  · rw [← List.drop_drop, h, List.drop_one, List.tail_cons]
  · refine Nat.lt_of_not_le fun hle => ?_
    rw [List.drop_of_length_le hle] at h
    cases h

theorem concat_prefix_of_drop {α : Type} {l m rest : List α} {a : α} (h : m <+: l)
    (hdrop : l.drop m.length = a :: rest) : m ++ [a] <+: l := by
  obtain ⟨tail, rfl⟩ := h
  rw [List.drop_left] at hdrop
  exact ⟨rest, by simp [hdrop]⟩

/-- One item more on the left finds its partner if there is one at its place. -/
theorem zipWith_snoc_left {α β γ : Type} (f : α → β → γ) (l : List α) (m : List β) (a : α) :
    List.zipWith f (l ++ [a]) m = List.zipWith f l m ++ (m[l.length]?).toList.map (f a) := by
  induction l generalizing m with
  | nil => cases m <;> simp
  | cons c l ih =>
    cases m with
    | nil => simp
    | cons b m => simp [ih]

/-- One item more on the right finds its partner if there is one at its place. -/
theorem zipWith_snoc_right {α β γ : Type} (f : α → β → γ) (l : List α) (m : List β) (b : β) :
    List.zipWith f l (m ++ [b]) = List.zipWith f l m ++ (l[m.length]?).toList.map (f · b) := by
  rw [List.zipWith_comm, zipWith_snoc_left, List.zipWith_comm]

/-! ## What is sent -/

theorem Stream.send_ok {s s' : Stream} {bytes : Bytes} (h : s.send bytes = .ok s') :
    ¬ (s.shut ∨ s.broken) ∧ s' = { s with sent := s.sent ++ bytes } := by
  unfold Stream.send at h
  split at h
  · cases h
  · rename_i hopen
    cases h
    exact ⟨hopen, rfl⟩

theorem Stream.send_error {s : Stream} {bytes : Bytes} {fault : StreamFault}
    (h : s.send bytes = .error fault) : s.shut ∨ s.broken := by
  unfold Stream.send at h
  split at h
  · rename_i hstuck
    exact hstuck
  · cases h

/-! ## What is answered -/

/-- A frame as a server sends it, with the reply that it spells. -/
structure Answer where
  reply : Reply
  bytes : Bytes
  whole : Reply.read bytes = .ok (reply, [])

/-- A reply in its canonical spelling. -/
def Answer.ofReply (r : Reply) (h : Reply.read r.frame = .ok (r, [])) : Answer := ⟨r, r.frame, h⟩

/-- What a server answers when it is asked whether it is there. -/
def Answer.pong : Answer := ⟨.status "PONG", [43, 80, 79, 78, 71, 13, 10], rfl⟩

/-- What a server answers when it has done as it was told. -/
def Answer.ok : Answer := .ofReply (.status "OK") rfl

/-- What a server answers when it has queued a command. -/
def Answer.queued : Answer := .ofReply (.status "QUEUED") rfl

/-- The bytes of answers, one after the other. -/
def spell (answers : List Answer) : Bytes := (answers.map Answer.bytes).flatten

@[simp] theorem spell_nil : spell [] = [] := rfl

@[simp] theorem spell_cons (a : Answer) (answers : List Answer) :
    spell (a :: answers) = a.bytes ++ spell answers := by
  simp [spell]

@[simp] theorem spell_append (answers more : List Answer) :
    spell (answers ++ more) = spell answers ++ spell more := by
  simp [spell]

theorem Answer.bytes_ne_nil (a : Answer) : a.bytes ≠ [] := Reply.ne_nil_of_read a.whole

theorem length_spell_le {answers more : List Answer} (h : answers.Sublist more) :
    (spell answers).length ≤ (spell more).length := by
  induction h with
  | slnil => exact Nat.le_refl _
  | cons a _ ih =>
    rw [spell_cons, List.length_append]
    exact Nat.le_add_left_of_le ih
  | cons_cons a _ ih =>
    rw [spell_cons, spell_cons, List.length_append, List.length_append]
    exact Nat.add_le_add_left ih _

theorem length_spell_drop_lt {answers : List Answer} {m n : Nat} (h : m < n)
    (hn : n ≤ answers.length) :
    (spell (answers.drop n)).length < (spell (answers.drop m)).length := by
  have hrest := length_spell_le (List.drop_sublist (n - (m + 1)) (answers.drop (m + 1)))
  rw [List.drop_drop, Nat.add_sub_cancel' h] at hrest
  rw [List.drop_eq_getElem_cons (Nat.lt_of_lt_of_le h hn), spell_cons, List.length_append]
  have hpos := List.length_pos_iff.mpr (Answer.bytes_ne_nil answers[m])
  omega

/-- What is left shows how many answers were read. -/
theorem spell_drop_injective {answers : List Answer} {m n : Nat} (hm : m ≤ answers.length)
    (hn : n ≤ answers.length) (h : spell (answers.drop m) = spell (answers.drop n)) : m = n := by
  rcases Nat.lt_trichotomy m n with hlt | heq | hlt
  · have hlength := length_spell_drop_lt hlt hn
    rw [h] at hlength
    exact absurd hlength (Nat.lt_irrefl _)
  · exact heq
  · have hlength := length_spell_drop_lt hlt hm
    rw [h] at hlength
    exact absurd hlength (Nat.lt_irrefl _)

/-- Where something that is no whole frame stands behind the answers, a frame that is read is the
    first of them, and the others are left. -/
theorem exists_answer_before {answers : List Answer} {arrived later remainder rest : Bytes}
    {r : Reply} (h : arrived ++ later = spell answers ++ remainder)
    (hremainder : Reply.read remainder = .error .incomplete)
    (hread : Reply.read arrived = .ok (r, rest)) :
    ∃ a more, answers = a :: more ∧ a.reply = r ∧ arrived = a.bytes ++ rest ∧
      rest ++ later = spell more ++ remainder := by
  have hfirst := Reply.read_steady.ok_append later hread
  rw [h] at hfirst
  cases answers with
  | nil =>
    rw [spell_nil, List.nil_append, hremainder] at hfirst
    cases hfirst
  | cons a more =>
    have hanswer : Reply.read (a.bytes ++ (spell more ++ remainder)) =
        .ok (a.reply, spell more ++ remainder) := Reply.read_steady.ok_append _ a.whole
    rw [spell_cons, List.append_assoc, hanswer, Except.ok.injEq, Prod.mk.injEq] at hfirst
    obtain ⟨hreply, hleft⟩ := hfirst
    obtain ⟨used, rfl, -⟩ := Reply.read_steady.front hread
    rw [spell_cons, List.append_assoc, List.append_assoc, hleft] at h
    rw [List.append_cancel_right h]
    exact ⟨a, more, rfl, hreply, rfl, hleft.symm⟩

/-- A frame that is read off what a server says is the first answer, and the others are left. -/
theorem exists_answer_of_read {answers : List Answer} {unread later rest : Bytes} {r : Reply}
    (h : unread ++ later = spell answers) (hr : Reply.read unread = .ok (r, rest)) :
    ∃ a tail, answers = a :: tail ∧ a.reply = r ∧ rest ++ later = spell tail := by
  rw [← List.append_nil (spell answers)] at h
  obtain ⟨a, tail, hfirst, hreply, -, hleft⟩ := exists_answer_before h rfl hr
  rw [List.append_nil] at hleft
  exact ⟨a, tail, hfirst, hreply, hleft⟩

/-! ## What is read -/

namespace Inlet

/-- What has arrived and was not read, whether the inlet has it already or the stream still. -/
def unread (i : Inlet) (s : Stream) : Bytes := i.decoder.buffer ++ s.arrived

/-- What it is to look for the next frame: nothing is sent, and what was unread before is unread
    afterwards, but for the frame that was found. -/
structure Looked (unread : Bytes) (s : Stream) (found : Intake × Inlet × Stream) : Prop where
  stream : ∃ arrived, found.2.2 = { s with arrived }
  frame : ∀ r, found.1 = .frame r → Reply.read unread = .ok (r, found.2.1.unread found.2.2)
  other : (∀ r, found.1 ≠ .frame r) → found.2.1.unread found.2.2 = unread
  failure : ∀ e, found.1 = .failure e → (∃ fault, e = .protocol fault) ∨ e = .io .cutOff

theorem Looked.fatal {unread : Bytes} {s : Stream} {found : Intake × Inlet × Stream}
    (h : Looked unread s found) (e : Error) (he : found.1 = .failure e) : e.isFatal := by
  rcases h.failure e he with ⟨fault, rfl⟩ | rfl <;> rfl

theorem looked_frame {d : Decoder} {s : Stream} {r : Reply} {rest : Bytes} (i : Inlet)
    (h : Reply.read d.buffer = .ok (r, rest)) (hi : i.decoder.buffer = rest) :
    Looked (d.buffer ++ s.arrived) s (.frame r, i, s) where
  stream := ⟨s.arrived, rfl⟩
  frame r' h' := by
    cases h'
    rw [unread, hi]
    exact Reply.read_steady.ok_append s.arrived h
  other h' := absurd rfl (h' r)
  failure e h' := by cases h'

theorem looked_other {s : Stream} {taken : Intake} {unread : Bytes} (i : Inlet)
    (hu : i.unread s = unread) (hframe : ∀ r, taken ≠ .frame r)
    (hfailure : ∀ e, taken = .failure e → (∃ fault, e = .protocol fault) ∨ e = .io .cutOff) :
    Looked unread s (taken, i, s) where
  stream := ⟨s.arrived, rfl⟩
  frame r h := absurd h (hframe r)
  other _ := hu
  failure := hfailure

theorem atLast_looked (i : Inlet) (s : Stream) :
    Looked (i.unread s) s (i.atLast.1, i.atLast.2, s) := by
  rcases i.decoder.next_cases with ⟨r, used, rest, -, hr, -, hnext⟩ | hnext | ⟨fault, hnext⟩
  · simp only [atLast, hnext]
    exact looked_frame _ hr rfl
  · simp only [atLast, hnext]
    split
    · exact looked_other _ rfl (by simp) (by simp)
    · exact looked_other _ rfl (by simp) (fun e h => by cases h; exact .inr rfl)
  · simp only [atLast, hnext]
    exact looked_other _ rfl (by simp) (fun e h => by cases h; exact .inl ⟨fault, rfl⟩)

theorem awaitMore_looked (i : Inlet) (s : Stream) : Looked (i.unread s) s (i.awaitMore s) := by
  unfold awaitMore
  split
  · split
    · exact looked_other _ rfl (by simp) (by simp)
    · exact atLast_looked { i with atEnd := true, ready := true } s
  · exact looked_other _ rfl (by simp) (by simp)

theorem decodeOr_looked (i : Inlet) (s : Stream)
    {otherwise : Inlet → Stream → Intake × Inlet × Stream}
    (h : ∀ i' : Inlet, Looked (i'.unread s) s (otherwise i' s)) :
    Looked (i.unread s) s (i.decodeOr s otherwise) := by
  rcases i.decoder.next_cases with ⟨r, used, rest, -, hr, -, hnext⟩ | hnext | ⟨fault, hnext⟩
  · simp only [decodeOr, hnext]
    exact looked_frame _ hr rfl
  · simp only [decodeOr, hnext]
    exact h { i with ready := false }
  · simp only [decodeOr, hnext]
    exact looked_other _ rfl (by simp) (fun e h => by cases h; exact .inl ⟨fault, rfl⟩)

theorem fetch_looked (i : Inlet) (s : Stream) : Looked (i.unread s) s (i.fetch s) := by
  unfold fetch
  split
  · exact awaitMore_looked i s
  · -- the bytes that are taken off the stream stay unread in the buffer
    have h := decodeOr_looked
      { i with decoder := i.decoder.feed s.arrived, ready := true, atEnd := false }
      { s with arrived := [] } fun i' => awaitMore_looked i' _
    have hu : (i.decoder.feed s.arrived).buffer ++ [] = i.unread s := List.append_nil _
    exact ⟨h.stream, hu ▸ h.frame, hu ▸ h.other, h.failure⟩

theorem next_looked (i : Inlet) (s : Stream) : Looked (i.unread s) s (i.next s) := by
  unfold next
  split
  · exact looked_other _ rfl (by simp) (by simp)
  · split
    · split
      · exact atLast_looked i s
      · exact decodeOr_looked i s fun i' => fetch_looked i' s
    · exact fetch_looked i s

end Inlet

end RespLink
