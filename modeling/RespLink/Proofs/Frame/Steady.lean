import RespLink.Frame.Reader

/-!
# Steady readers — bytes that arrive later change no answer

A reader looks at what has arrived so far, and nothing tells it whether that is all. It is
*steady* if this does not matter: an answer stays the same whatever arrives behind it, a fault
stays too unless it says no more than that bytes are missing, and what was read off the front
would have been read just so if it had arrived alone.

Every reader of frames is steady. The readers are built from a few parts, so that is shown part
by part: for the two that look for an end in the bytes, `readLine` and `readExact`, directly, and
for the others by the way in which they are put together.
-/

namespace RespLink
namespace Frame

/-- A reader whose answers do not depend on where the bytes that have arrived happen to end. -/
structure Steady {α : Type} (read : Reader α) : Prop where
  ok_append {b rest : Bytes} {a : α} (x : Bytes) :
    read b = .ok (a, rest) → read (b ++ x) = .ok (a, rest ++ x)
  error_append {b : Bytes} {e : FrameFault} (x : Bytes) :
    read b = .error e → e ≠ .incomplete → read (b ++ x) = .error e
  front {b rest : Bytes} {a : α} :
    read b = .ok (a, rest) → ∃ used, b = used ++ rest ∧ read used = .ok (a, [])

namespace Steady

variable {α β : Type}

/-! ## What steady readers are put together from -/

theorem pure (a : α) : Steady fun b => .ok (a, b) where
  ok_append x h := by cases h; rfl
  error_append x h := by cases h
  front h := by cases h; exact ⟨[], rfl, rfl⟩

theorem fault (e : FrameFault) : Steady (fun _ => .error e : Reader α) where
  ok_append x h := by cases h
  error_append x h _ := by cases h; rfl
  front h := by cases h

theorem bind {first : Reader α} {next : α → Reader β} (hf : Steady first)
    (hn : ∀ a, Steady (next a)) : Steady fun b => first b >>= fun p => next p.1 p.2 where
  ok_append {b rest c} x h := by
    cases hb : first b with
    | error e => simp [hb, Bind.bind, Except.bind] at h
    | ok p =>
      simp only [hb, Bind.bind, Except.bind] at h
      simp only [hf.ok_append x hb, Bind.bind, Except.bind]
      exact (hn p.1).ok_append x h
  error_append {b e} x h he := by
    cases hb : first b with
    | error e' =>
      simp only [hb, Bind.bind, Except.bind, Except.error.injEq] at h
      subst h
      simp only [hf.error_append x hb he, Bind.bind, Except.bind]
    | ok p =>
      simp only [hb, Bind.bind, Except.bind] at h
      simp only [hf.ok_append x hb, Bind.bind, Except.bind]
      exact (hn p.1).error_append x h he
  front {b rest c} h := by
    cases hb : first b with
    | error e => simp [hb, Bind.bind, Except.bind] at h
    | ok p =>
      simp only [hb, Bind.bind, Except.bind] at h
      obtain ⟨used₁, rfl, h₁⟩ := hf.front hb
      obtain ⟨used₂, hp, h₂⟩ := (hn p.1).front h
      refine ⟨used₁ ++ used₂, by rw [hp, List.append_assoc], ?_⟩
      simp only [hf.ok_append used₂ h₁, Bind.bind, Except.bind, List.nil_append]
      exact h₂

theorem congr {read read' : Reader α} (h : Steady read) (heq : ∀ b, read' b = read b) :
    Steady read' := by
  rw [funext heq]
  exact h

theorem map {read : Reader α} (f : α → β) (hr : Steady read) :
    Steady fun b => (read b).map fun p => (f p.1, p.2) :=
  (hr.bind fun a => pure (f a)).congr fun b => by cases read b <;> rfl

/-- A reader that goes on according to what is there, or is not. -/
theorem option {onSome : α → Reader β} {onNone : Reader β} (hs : ∀ a, Steady (onSome a))
    (hn : Steady onNone) (value : Option α) :
    Steady fun rest => match value with
      | some a => onSome a rest
      | none => onNone rest := by
  cases value with
  | some a => exact hs a
  | none => exact hn

/-- A reader that looks at the first byte and goes on accordingly. -/
theorem cons {next : UInt8 → Reader α} (hn : ∀ first, Steady (next first)) :
    Steady fun
      | [] => .error .incomplete
      | first :: bytes => next first bytes where
  ok_append {b rest a} x h := by
    cases b with
    | nil => cases h
    | cons first bytes => exact (hn first).ok_append x h
  error_append {b e} x h he := by
    cases b with
    | nil => cases h; exact absurd rfl he
    | cons first bytes => exact (hn first).error_append x h he
  front {b rest a} h := by
    cases b with
    | nil => cases h
    | cons first bytes =>
      obtain ⟨used, rfl, h'⟩ := (hn first).front h
      exact ⟨first :: used, rfl, h'⟩

end Steady

/-! ## Lines -/

/-- What is split off is everything before the first line end. -/
theorem splitLine_line {line : Bytes} (passed rest : Bytes) (h : ¬ Bytes.crlf <:+: line) :
    splitLine passed (line ++ (Bytes.crlf ++ rest)) = some (passed.reverse ++ line, rest) := by
  induction line generalizing passed with
  | nil => simp [splitLine, Bytes.crlf]
  | cons a line ih =>
    have hline : ¬ Bytes.crlf <:+: line := fun hi => h (List.infix_cons_iff.mpr (Or.inr hi))
    have hfront : ¬ Bytes.crlf <+: a :: line := fun hp => h hp.isInfix
    -- the byte after `a` is the next one of the line, or the first one of its end
    obtain ⟨b, tail, htail, hb⟩ : ∃ b tail, line ++ (Bytes.crlf ++ rest) = b :: tail ∧
        ¬ (a = Bytes.cr ∧ b = Bytes.lf) := by
      cases line with
      | nil => exact ⟨Bytes.cr, Bytes.lf :: rest, rfl, fun hab => absurd hab.2 (by decide)⟩
      | cons b line =>
        refine ⟨b, line ++ (Bytes.crlf ++ rest), rfl, fun hab => hfront ?_⟩
        rw [hab.1, hab.2]
        exact ⟨line, rfl⟩
    have hstep := ih (a :: passed) hline
    rw [htail] at hstep
    rw [List.cons_append, htail, splitLine, if_neg hb, hstep]
    simp

theorem exists_line_of_splitLine {passed b line rest : Bytes}
    (h : splitLine passed b = some (line, rest)) :
    ∃ l, line = passed.reverse ++ l ∧ b = l ++ (Bytes.crlf ++ rest) ∧ ¬ Bytes.crlf <:+: l := by
  induction b generalizing passed with
  | nil => cases h
  | cons a b ih =>
    cases b with
    | nil => cases h
    | cons b tail =>
      rw [splitLine] at h
      split at h
      · rename_i hab
        cases h
        exact ⟨[], by simp, by simp [Bytes.crlf, hab.1, hab.2], by simp [Bytes.crlf]⟩
      · rename_i hab
        obtain ⟨l, rfl, hl, hnot⟩ := ih h
        refine ⟨a :: l, by simp, by rw [hl]; rfl, fun hi => ?_⟩
        rcases List.infix_cons_iff.mp hi with hp | hi
        · cases l with
          | nil => exact absurd hp.length_le (by simp [Bytes.crlf])
          | cons c l =>
            obtain ⟨t, ht⟩ := hp
            simp only [Bytes.crlf, List.cons_append, List.cons.injEq] at ht hl
            exact hab ⟨ht.1.symm, by rw [hl.1]; exact ht.2.1.symm⟩
        · exact hnot hi

theorem readLine_line {line : Bytes} (rest : Bytes) (h : ¬ Bytes.crlf <:+: line) :
    readLine (line ++ (Bytes.crlf ++ rest)) = .ok (line, rest) := by
  rw [readLine, splitLine_line [] rest h]
  rfl

theorem exists_line_of_readLine {b line rest : Bytes} (h : readLine b = .ok (line, rest)) :
    b = line ++ (Bytes.crlf ++ rest) ∧ ¬ Bytes.crlf <:+: line := by
  unfold readLine at h
  split at h
  · rename_i found hfound
    cases h
    obtain ⟨l, hl, hb, hnot⟩ := exists_line_of_splitLine hfound
    rw [List.reverse_nil, List.nil_append] at hl
    subst hl
    exact ⟨hb, hnot⟩
  · cases h

theorem readLine_steady : Steady readLine where
  ok_append x h := by
    obtain ⟨rfl, hnot⟩ := exists_line_of_readLine h
    rw [List.append_assoc, List.append_assoc]
    exact readLine_line _ hnot
  error_append x h he := by
    unfold readLine at h
    split at h
    · cases h
    · cases h; exact absurd rfl he
  front {b rest line} h := by
    obtain ⟨rfl, hnot⟩ := exists_line_of_readLine h
    exact ⟨line ++ Bytes.crlf, by simp, by simpa using readLine_line [] hnot⟩

theorem readText_steady : Steady readText := by
  have hnext (line : Bytes) := Steady.option Steady.pure
    (Steady.fault (.notUtf8 (Text.fault line))) (Text.ofBytes? line)
  refine (readLine_steady.bind hnext).congr fun b => ?_
  rw [readText]
  refine congrArg (readLine b >>= ·) (funext fun p => ?_)
  cases h : Text.ofBytes? p.1 <;> simp [h]

theorem readInteger_steady : Steady readInteger := by
  have hnext (line : String) := Steady.option Steady.pure
    (Steady.fault (.badInteger line)) (Decimal.int64? (Text.toBytes line))
  refine (readText_steady.bind hnext).congr fun b => ?_
  rw [readInteger]
  refine congrArg (readText b >>= ·) (funext fun p => ?_)
  cases h : Decimal.int64? (Text.toBytes p.1) <;> simp [h]

theorem readLength_steady : Steady readLength := by
  have hnext (i : Int64) : Steady fun rest =>
      if i = -1 then .ok (none, rest)
      else if i < 0 then .error (.badLength i)
      else .ok (some i.toInt.toNat, rest) := by
    by_cases hnull : i = -1
    · simp only [hnull, if_true]
      exact Steady.pure none
    · by_cases hneg : i < 0
      · simp only [hnull, hneg, if_true, if_false]
        exact Steady.fault _
      · simp only [hnull, hneg, if_false]
        exact Steady.pure (some i.toInt.toNat)
  exact readInteger_steady.bind hnext

/-! ## Byte strings of known length -/

theorem readExact_data (data rest : Bytes) :
    readExact data.length (data ++ (Bytes.crlf ++ rest)) = .ok (data, rest) := by
  simp [readExact, Bytes.crlf]

theorem readExact_ok {n : Nat} {b data rest : Bytes} (h : readExact n b = .ok (data, rest)) :
    b = data ++ (Bytes.crlf ++ rest) ∧ data.length = n := by
  unfold readExact at h
  split at h
  · rename_i c d tail hdrop
    split at h
    · rename_i hend
      cases h
      have hlen : n ≤ b.length := by
        have := congrArg List.length hdrop
        simp only [List.length_drop, List.length_cons] at this
        omega
      refine ⟨?_, List.length_take_of_le hlen⟩
      calc b = b.take n ++ b.drop n := (List.take_append_drop n b).symm
        _ = b.take n ++ (Bytes.crlf ++ rest) := by rw [hdrop, hend.1, hend.2]; simp [Bytes.crlf]
    · cases h
  · cases h
  · cases h

theorem readExact_steady (n : Nat) : Steady (readExact n) where
  ok_append x h := by
    obtain ⟨rfl, rfl⟩ := readExact_ok h
    rw [List.append_assoc, List.append_assoc]
    exact readExact_data _ _
  error_append {b e} x h he := by
    unfold readExact at h ⊢
    split at h
    · rename_i c d tail hdrop
      have hlen : n ≤ b.length := by
        have := congrArg List.length hdrop
        simp only [List.length_drop, List.length_cons] at this
        omega
      split at h
      · cases h
      · rename_i hend
        cases h
        rw [List.drop_append_of_le_length hlen, hdrop]
        exact if_neg hend
    · cases h; exact absurd rfl he
    · cases h; exact absurd rfl he
  front {b rest data} h := by
    obtain ⟨rfl, rfl⟩ := readExact_ok h
    exact ⟨data ++ Bytes.crlf, by simp, by simpa using readExact_data data []⟩

theorem readBulk_steady : Steady readBulk := by
  have hbulk (n : Nat) :
      Steady fun rest => readExact n rest >>= fun p => .ok (Reply.bulk p.1, p.2) :=
    (readExact_steady n).bind fun data => .pure (Reply.bulk data)
  refine (readLength_steady.bind (.option hbulk (.pure .nullBulk))).congr fun b => ?_
  unfold readBulk
  rcases readLength b with e | ⟨length, rest⟩
  · rfl
  · cases length <;> rfl

/-! ## Arrays and frames -/

theorem readItems_steady {item : Reader Reply} (hi : Steady item) (count : Nat)
    (done : List Reply) : Steady (readItems item count done) := by
  induction count generalizing done with
  | zero => exact Steady.pure done.reverse
  | succ count ih =>
    refine (hi.bind fun r => ih (r :: done)).congr fun b => ?_
    rw [readItems]
    cases item b <;> rfl

theorem readArray_steady {item : Reader Reply} (hi : Steady item) : Steady (readArray item) := by
  have harray (count : Nat) :
      Steady fun rest => readItems item count [] rest >>= fun p => .ok (Reply.array p.1, p.2) :=
    (readItems_steady hi count []).bind fun items => .pure (Reply.array items)
  refine (readLength_steady.bind (.option harray (.pure .nullArray))).congr fun b => ?_
  unfold readArray
  rcases readLength b with e | ⟨length, rest⟩
  · rfl
  · cases length <;> rfl

theorem readFrame_steady {array : Reader Reply} (ha : Steady array) :
    Steady (readFrame array) := by
  have hnext (first : UInt8) : Steady fun bytes => readFrame array (first :: bytes) := by
    simp only [readFrame]
    cases Kind.ofByte? first with
    | none => exact Steady.fault _
    | some kind =>
      cases kind with
      | status => exact readText_steady.map Reply.status
      | error => exact readText_steady.map Reply.error
      | integer => exact readInteger_steady.map Reply.integer
      | bulk => exact readBulk_steady
      | array => exact ha
  exact (Steady.cons hnext).congr fun b => by cases b <;> rfl

end Frame

theorem Reply.readWithin_steady (room : Nat) : Frame.Steady (readWithin room) := by
  induction room with
  | zero => exact Frame.readFrame_steady (Frame.Steady.fault _)
  | succ room ih => exact Frame.readFrame_steady (Frame.readArray_steady ih)

theorem Reply.read_steady : Frame.Steady Reply.read := readWithin_steady _

/-- No frame is empty: what was used up to read one holds at least a byte. -/
theorem Reply.ne_nil_of_read {b rest : Bytes} {r : Reply} (h : Reply.read b = .ok (r, rest)) :
    b ≠ [] := by
  rintro rfl
  cases h

end RespLink
