import RespLink.Proofs.Decimal.Canonical
import RespLink.Proofs.Frame.Grammar

/-!
# Canonical frames — what is read, written again

A reply that was read has lost how its numbers were spelled and nothing else. Written again it is
read as the same reply, and it is the shortest of all frames of that reply: what was read is
longer, unless it is the same to the byte, and that it is exactly if nothing is superfluous in any
of its numbers.

Both measures are taken part by part. Bytes *condense* others if they are no longer, and the same
if they are as long; this passes from numbers to lines and from parts to what they are put together
of, and back: where the whole is the same, each part is.
-/

namespace RespLink

/-! ## Condensing -/

/-- The bytes `short` stand for `long`: they are no longer, and the same if they are as long. -/
structure Condenses (short long : Bytes) : Prop where
  length_le : short.length ≤ long.length
  eq_of_length : short.length = long.length → short = long

namespace Condenses

variable {a b c d : Bytes}

theorem refl (a : Bytes) : Condenses a a := ⟨Nat.le_refl _, fun _ => rfl⟩

theorem append (h : Condenses a b) (h' : Condenses c d) : Condenses (a ++ c) (b ++ d) where
  length_le := by
    have hfirst := h.length_le
    have hsecond := h'.length_le
    rw [List.length_append, List.length_append]
    omega
  eq_of_length hlen := by
    have hfirst := h.length_le
    have hsecond := h'.length_le
    rw [List.length_append, List.length_append] at hlen
    rw [h.eq_of_length (by omega), h'.eq_of_length (by omega)]

/-- Where the whole is the same, the parts are. -/
theorem eq_of_append (h : Condenses a b) (h' : Condenses c d) (heq : a ++ c = b ++ d) :
    a = b ∧ c = d := by
  have hfirst := h.length_le
  have hsecond := h'.length_le
  have hlen := congrArg List.length heq
  rw [List.length_append, List.length_append] at hlen
  exact ⟨h.eq_of_length (by omega), h'.eq_of_length (by omega)⟩

theorem flatten {α : Type} {f g : α → Bytes} {parts : List α}
    (h : ∀ p ∈ parts, Condenses (f p) (g p)) :
    Condenses (parts.map f).flatten (parts.map g).flatten := by
  induction parts with
  | nil => exact refl _
  | cons p parts ih => exact (h p (by simp)).append (ih fun q hq => h q (by simp [hq]))

theorem forall_eq_of_flatten {α : Type} {f g : α → Bytes} {parts : List α}
    (h : ∀ p ∈ parts, Condenses (f p) (g p))
    (heq : (parts.map f).flatten = (parts.map g).flatten) : ∀ p ∈ parts, f p = g p := by
  induction parts with
  | nil => simp
  | cons p parts ih =>
    have hrest : ∀ q ∈ parts, Condenses (f q) (g q) := fun q hq => h q (by simp [hq])
    obtain ⟨hp, hparts⟩ := (h p (by simp)).eq_of_append (flatten hrest) heq
    exact List.forall_mem_cons.mpr ⟨hp, ih hrest hparts⟩

end Condenses

theorem Decimal.Spells.condenses {line : Bytes} {i : Int} (h : Spells line i) :
    Condenses (ofInt i) line := ⟨h.length_le, h.eq_of_length⟩

theorem Condenses.line {short long : Bytes} (h : Condenses short long) (mark : Char) :
    Condenses (Frame.lineOf mark short) (Frame.lineOf mark long) :=
  (Condenses.refl [Bytes.ascii mark]).append (h.append (.refl Bytes.crlf))

namespace Frame

/-! ## The numbers of a frame -/

/-- `Numeral n bytes r line`: a number in the frame `bytes` of `r`, which stands inside `n` arrays,
    is spelled `line`. It may be an integer, the length of a byte string or of an array, or the
    length that stands for null, and it may belong to the frame itself or to one in it. -/
inductive Numeral : Nat → Bytes → Reply → Bytes → Prop
  | integer {n : Nat} {line : Bytes} {i : Int64} : Decimal.Spells line i.toInt →
    Numeral n (lineOf ':' line) (.integer i) line
  | nullBulk {n : Nat} {line : Bytes} : Decimal.Spells line (-1) →
    Numeral n (lineOf '$' line) .nullBulk line
  | bulk {n : Nat} {line data : Bytes} : Decimal.Spells line data.length →
    Numeral n (lineOf '$' line ++ (data ++ Bytes.crlf)) (.bulk data) line
  | nullArray {n : Nat} {line : Bytes} : Decimal.Spells line (-1) →
    Numeral n (lineOf '*' line) .nullArray line
  | count {n : Nat} {line : Bytes} {parts : List (Bytes × Reply)} :
    Decimal.Spells line parts.length → (∀ p ∈ parts, Derives (n + 1) p.1 p.2) →
    Numeral n (lineOf '*' line ++ (parts.map Prod.fst).flatten) (.array (parts.map Prod.snd)) line
  | item {n : Nat} {line number : Bytes} {parts : List (Bytes × Reply)} {p : Bytes × Reply} :
    Decimal.Spells line parts.length → (∀ p ∈ parts, Derives (n + 1) p.1 p.2) → p ∈ parts →
    Numeral (n + 1) p.1 p.2 number →
    Numeral n (lineOf '*' line ++ (parts.map Prod.fst).flatten) (.array (parts.map Prod.snd))
      number

/-! ## Frames that are written -/

theorem line_eq_lineOf {kind : Kind} (mark : Char) (h : kind.byte = Bytes.ascii mark)
    (content : Bytes) : kind.line content = lineOf mark content := by
  rw [Kind.line, lineOf, h, List.cons_append]

theorem frame_status (text : String) :
    (Reply.status text).frame = lineOf '+' (Text.toBytes text) := by
  rw [Reply.frame, line_eq_lineOf '+' rfl]

theorem frame_error (text : String) :
    (Reply.error text).frame = lineOf '-' (Text.toBytes text) := by
  rw [Reply.frame, line_eq_lineOf '-' rfl]

theorem frame_integer (i : Int64) :
    (Reply.integer i).frame = lineOf ':' (Decimal.ofInt i.toInt) := by
  rw [Reply.frame, line_eq_lineOf ':' rfl]

theorem frame_bulk (data : Bytes) :
    (Reply.bulk data).frame = lineOf '$' (Decimal.ofInt data.length) ++ (data ++ Bytes.crlf) := by
  rw [Reply.frame, bulkFrame, line_eq_lineOf '$' rfl, Decimal.ofInt_natCast, List.append_assoc]

theorem frame_nullBulk : Reply.nullBulk.frame = lineOf '$' (Decimal.ofInt (-1)) := by
  rw [Reply.frame, line_eq_lineOf '$' rfl]

theorem frame_nullArray : Reply.nullArray.frame = lineOf '*' (Decimal.ofInt (-1)) := by
  rw [Reply.frame, line_eq_lineOf '*' rfl]

/-- The frame of an array that is given as the frames of its items and the items. -/
theorem frame_parts (parts : List (Bytes × Reply)) :
    (Reply.array (parts.map Prod.snd)).frame = lineOf '*' (Decimal.ofInt parts.length)
      ++ (parts.map fun p => p.2.frame).flatten := by
  rw [Reply.frame_array, arrayHeader, line_eq_lineOf '*' rfl, Decimal.ofInt_natCast,
    List.length_map, List.map_map]
  rfl

/-- What is written for a reply that some bytes are a frame of is a frame of it, too. -/
theorem Derives.frame {n : Nat} {u : Bytes} {r : Reply} (h : Derives n u r) :
    Derives n r.frame r := by
  induction h with
  | status htext =>
    rw [frame_status]
    exact .status htext
  | error htext =>
    rw [frame_error]
    exact .error htext
  | integer _ =>
    rw [frame_integer]
    exact .integer (Decimal.spells_ofInt _)
  | nullBulk _ =>
    rw [frame_nullBulk]
    exact .nullBulk (Decimal.spells_ofInt _)
  | bulk _ hsize =>
    rw [frame_bulk]
    exact .bulk (Decimal.spells_ofInt _) hsize
  | nullArray hn _ =>
    rw [frame_nullArray]
    exact .nullArray hn (Decimal.spells_ofInt _)
  | @array n line parts hn _ hsize _ ih =>
    have hwritten := @Derives.array n _ (parts.map fun p => (p.2.frame, p.2)) hn
      (Decimal.spells_ofInt _) (by simpa using hsize) (List.forall_mem_map.mpr ih)
    rw [frame_parts]
    simpa [Function.comp_def] using hwritten

theorem Derives.condenses {n : Nat} {u : Bytes} {r : Reply} (h : Derives n u r) :
    Condenses r.frame u := by
  induction h with
  | status _ =>
    rw [frame_status]
    exact .refl _
  | error _ =>
    rw [frame_error]
    exact .refl _
  | integer hline =>
    rw [frame_integer]
    exact hline.condenses.line ':'
  | nullBulk hline =>
    rw [frame_nullBulk]
    exact hline.condenses.line '$'
  | bulk hline _ =>
    rw [frame_bulk]
    exact (hline.condenses.line '$').append (.refl _)
  | nullArray _ hline =>
    rw [frame_nullArray]
    exact hline.condenses.line '*'
  | array _ hline _ _ ih =>
    rw [frame_parts]
    exact (hline.condenses.line '*').append (.flatten ih)

/-- Where no number has anything superfluous, a frame is what is written for its reply. -/
theorem Derives.frame_eq_of_plain {n : Nat} {u : Bytes} {r : Reply} (h : Derives n u r)
    (hplain : ∀ line, Numeral n u r line → Decimal.Plain line) : r.frame = u := by
  induction h with
  | status _ => exact frame_status _
  | error _ => exact frame_error _
  | integer hline => rw [frame_integer, hline.eq_of_plain (hplain _ (.integer hline))]
  | nullBulk hline => rw [frame_nullBulk, hline.eq_of_plain (hplain _ (.nullBulk hline))]
  | bulk hline _ => rw [frame_bulk, hline.eq_of_plain (hplain _ (.bulk hline))]
  | nullArray _ hline => rw [frame_nullArray, hline.eq_of_plain (hplain _ (.nullArray hline))]
  | array _ hline _ hparts ih =>
    have hitems := List.map_congr_left fun p hp =>
      ih p hp fun number hnumber => hplain number (.item hline hparts hp hnumber)
    rw [frame_parts, hline.eq_of_plain (hplain _ (.count hline hparts)), hitems]

/-- What is written for a reply has nothing superfluous in any of its numbers. -/
theorem Numeral.plain {n : Nat} {u line : Bytes} {r : Reply} (h : Numeral n u r line)
    (heq : r.frame = u) : Decimal.Plain line := by
  have hspelled {mark : Char} {line : Bytes} {i : Int} (hline : Decimal.Spells line i)
      (heq : lineOf mark (Decimal.ofInt i) = lineOf mark line) : Decimal.Plain line := by
    have hsame := List.append_cancel_right (List.cons.inj heq).2
    rw [← hsame]
    exact Decimal.plain_ofInt i
  induction h with
  | integer hline => exact hspelled hline (frame_integer _ ▸ heq)
  | nullBulk hline => exact hspelled hline (frame_nullBulk ▸ heq)
  | bulk hline => exact hspelled hline (List.append_cancel_right (frame_bulk _ ▸ heq))
  | nullArray hline => exact hspelled hline (frame_nullArray ▸ heq)
  | count hline hparts =>
    rw [frame_parts] at heq
    have hitems := Condenses.flatten fun p hp => (hparts p hp).condenses
    exact hspelled hline ((hline.condenses.line '*').eq_of_append hitems heq).1
  | item hline hparts hp _ ih =>
    rw [frame_parts] at heq
    have hitems := fun p hp => (hparts p hp).condenses
    have hflat := ((hline.condenses.line '*').eq_of_append (.flatten hitems) heq).2
    exact ih (Condenses.forall_eq_of_flatten hitems hflat _ hp)

end Frame

namespace Reply

open RespLink.Frame

/-- A reply that is read, written again, is read back to its end as the same reply, and is no longer
    than what was read. It is as long exactly if it is what was read, and that exactly if every
    integer and every length there is spelled without anything superfluous. -/
theorem frame_of_readTo {b : Bytes} {r : Reply} {n : Nat} (h : readTo b = .ok (r, n)) :
    readTo r.frame = .ok (r, r.frame.length) ∧
    r.frame.length ≤ n ∧
    (r.frame.length = n ↔ r.frame = b.take n) ∧
    (r.frame = b.take n ↔ ∀ line, Numeral 0 (b.take n) r line → Decimal.Plain line) := by
  obtain ⟨hn, hused⟩ := derives_of_readTo h
  have hlen : (b.take n).length = n := List.length_take_of_le hn
  have hagain : readTo r.frame = .ok (r, r.frame.length) :=
    readTo_of_derives (Nat.le_refl _) (by rw [List.take_length]; exact hused.frame)
  have hcondenses := hused.condenses
  refine ⟨hagain, hlen ▸ hcondenses.length_le, ⟨fun heq => ?_, fun heq => ?_⟩,
    ⟨fun heq line hline => hline.plain heq, hused.frame_eq_of_plain⟩⟩
  · exact hcondenses.eq_of_length (heq.trans hlen.symm)
  · rw [heq, hlen]

/-- A list with a zero before its count, a zero with a minus, and a plus before a length; then what
    is no frame. -/
def padded : Bytes :=
  [42, 48, 50, 13, 10, 58, 45, 48, 13, 10, 36, 43, 49, 13, 10, 10, 13, 10, 63]

theorem frame_of_readTo_padded :
    readTo padded = .ok (.array [.integer 0, .bulk [10]], 18) ∧
    readTo (Reply.array [.integer 0, .bulk [10]]).frame
      = .ok (.array [.integer 0, .bulk [10]], 15) ∧
    ¬ ∀ line, Numeral 0 (padded.take 18) (.array [.integer 0, .bulk [10]]) line →
      Decimal.Plain line := by
  have hread : readTo padded = .ok (.array [.integer 0, .bulk [10]], 18) := rfl
  obtain ⟨hagain, -, hlength, hplain⟩ := frame_of_readTo hread
  have hshort : (Reply.array [.integer 0, .bulk [10]]).frame.length = 15 := rfl
  refine ⟨hread, hshort ▸ hagain, fun hall => ?_⟩
  exact absurd (hlength.mpr (hplain.mpr hall)) (by rw [hshort]; decide)

end Reply

end RespLink
