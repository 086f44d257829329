import RespLink.Proofs.Decimal.Spelling
import RespLink.Proofs.Frame.RoundTrip

/-!
# Grammar — which bytes are a frame, and of what

`Derives n bytes r` says that all of `bytes` is one frame of the reply `r` where it stands inside
`n` arrays. It is a grammar and knows no reader: how far a line reaches, which spellings a number
has, and how much belongs to an array are said by the bytes that are put together.

Reading a frame is deciding this grammar. One half is induction on the room for arrays, the other
on the derivation; both go through what each reader inside a frame accepts, which is said first and
as an equivalence, so that neither half opens a reader. That a buffer has one reading at most,
and that no frame is the beginning of another, comes from the reader: it answers once, and the
same whatever stands behind.
-/

namespace RespLink

namespace Frame

/-- A line of the grammar: its mark, then what it says, then the line end. -/
def lineOf (mark : Char) (content : Bytes) : Bytes := Bytes.ascii mark :: (content ++ Bytes.crlf)

/-- `Derives n bytes r`: inside `n` arrays, `bytes` is a frame of `r`. A line ends at its first
    line end, so the texts have none in them; the numbers cannot have one. -/
inductive Derives : Nat → Bytes → Reply → Prop
  | status {n : Nat} {text : String} : ¬ Bytes.crlf <:+: Text.toBytes text →
    Derives n (lineOf '+' (Text.toBytes text)) (.status text)
  | error {n : Nat} {text : String} : ¬ Bytes.crlf <:+: Text.toBytes text →
    Derives n (lineOf '-' (Text.toBytes text)) (.error text)
  | integer {n : Nat} {line : Bytes} {i : Int64} : Decimal.Spells line i.toInt →
    Derives n (lineOf ':' line) (.integer i)
  | nullBulk {n : Nat} {line : Bytes} : Decimal.Spells line (-1) →
    Derives n (lineOf '$' line) .nullBulk
  | bulk {n : Nat} {line data : Bytes} : Decimal.Spells line data.length →
    data.length ≤ Int64.maxValue.toInt →
    Derives n (lineOf '$' line ++ (data ++ Bytes.crlf)) (.bulk data)
  | nullArray {n : Nat} {line : Bytes} : n < 128 → Decimal.Spells line (-1) →
    Derives n (lineOf '*' line) .nullArray
  | array {n : Nat} {line : Bytes} {parts : List (Bytes × Reply)} : n < 128 →
    Decimal.Spells line parts.length → parts.length ≤ Int64.maxValue.toInt →
    (∀ p ∈ parts, Derives (n + 1) p.1 p.2) →
    Derives n (lineOf '*' line ++ (parts.map Prod.fst).flatten) (.array (parts.map Prod.snd))

@[simp] theorem lineOf_append (mark : Char) (content rest : Bytes) :
    lineOf mark content ++ rest = Bytes.ascii mark :: (content ++ (Bytes.crlf ++ rest)) := by
  simp [lineOf]

theorem cons_eq_lineOf {first : UInt8} {kind : Kind} {mark : Char}
    (hkind : Kind.ofByte? first = some kind) (hmark : kind.byte = Bytes.ascii mark)
    (content rest : Bytes) :
    first :: (content ++ (Bytes.crlf ++ rest)) = lineOf mark content ++ rest := by
  rw [lineOf_append, ← hmark, Kind.byte_of_ofByte? hkind]

/-! ## What the readers inside a frame accept -/

theorem readText_eq_ok_iff {b rest : Bytes} {s : String} :
    readText b = .ok (s, rest) ↔
      b = Text.toBytes s ++ (Bytes.crlf ++ rest) ∧ ¬ Bytes.crlf <:+: Text.toBytes s := by
  constructor
  · intro h
    obtain ⟨⟨line, tail⟩, hline, h⟩ := Reply.exists_of_bind_ok h
    dsimp only at h
    split at h
    · rename_i text htext
      cases h
      rw [Text.toBytes_of_ofBytes? htext]
      exact exists_line_of_readLine hline
    · cases h
  · rintro ⟨rfl, h⟩
    exact readText_line rest h

theorem not_crlf_infix_of_spells {line : Bytes} {i : Int} (h : Decimal.Spells line i) :
    ¬ Bytes.crlf <:+: line := by
  intro hi
  have hcr : Bytes.cr ∈ line := hi.subset (by simp [Bytes.crlf])
  exact absurd (h.toNat_lt hcr).1 (by decide)

theorem readInteger_eq_ok_iff {b rest : Bytes} {i : Int64} :
    readInteger b = .ok (i, rest) ↔
      ∃ line, Decimal.Spells line i.toInt ∧ b = line ++ (Bytes.crlf ++ rest) := by
  constructor
  · intro h
    obtain ⟨⟨s, tail⟩, hs, h⟩ := Reply.exists_of_bind_ok h
    dsimp only at h
    split at h
    · rename_i j hj
      cases h
      exact ⟨Text.toBytes s, Decimal.int64?_eq_some_iff.mp hj, (readText_eq_ok_iff.mp hs).1⟩
    · cases h
  · rintro ⟨line, hline, rfl⟩
    obtain ⟨s, rfl⟩ := Text.exists_text_of_ascii fun b hb => (hline.toNat_lt hb).2
    have hs := readText_line rest (not_crlf_infix_of_spells hline)
    simp [readInteger, hs, Bind.bind, Except.bind, Decimal.int64?_eq_some_iff.mpr hline]

theorem readLength_eq_none_iff {b rest : Bytes} :
    readLength b = .ok (none, rest) ↔
      ∃ line, Decimal.Spells line (-1) ∧ b = line ++ (Bytes.crlf ++ rest) := by
  constructor
  · intro h
    obtain ⟨⟨i, tail⟩, hi, h⟩ := Reply.exists_of_bind_ok h
    dsimp only at h
    split at h
    · rename_i hnull
      cases h
      subst hnull
      exact readInteger_eq_ok_iff.mp hi
    · split at h <;> cases h
  · rintro ⟨line, hline, rfl⟩
    have hi : readInteger (line ++ (Bytes.crlf ++ rest)) = .ok (-1, rest) :=
      readInteger_eq_ok_iff.mpr ⟨line, hline, rfl⟩
    simp only [readLength, hi, Bind.bind, Except.bind]
    rfl

theorem readLength_eq_some_iff {b rest : Bytes} {count : Nat} :
    readLength b = .ok (some count, rest) ↔ ∃ line, Decimal.Spells line count ∧
      count ≤ Int64.maxValue.toInt ∧ b = line ++ (Bytes.crlf ++ rest) := by
  constructor
  · intro h
    obtain ⟨⟨i, tail⟩, hi, h⟩ := Reply.exists_of_bind_ok h
    dsimp only at h
    split at h
    · cases h
    · split at h
      · cases h
      · rename_i hneg
        cases h
        rw [Int64.lt_iff_toInt_lt] at hneg
        have hnat : (i.toInt.toNat : Int) = i.toInt := Int.toNat_of_nonneg (Int.not_lt.mp hneg)
        obtain ⟨line, hline, hb⟩ := readInteger_eq_ok_iff.mp hi
        rw [← hnat] at hline
        exact ⟨line, hline, by rw [hnat]; exact i.toInt_le, hb⟩
  · rintro ⟨line, hline, hcount, rfl⟩
    have hlow : Int64.minValue.toInt ≤ count := by
      rw [Int64.toInt_minValue]
      omega
    have hval : (Int64.ofInt count).toInt = count := by
      rw [← Int64.ofIntLE_eq_ofInt hlow hcount, Int64.toInt_ofIntLE]
    have hi : readInteger (line ++ (Bytes.crlf ++ rest)) = .ok (Int64.ofInt count, rest) :=
      readInteger_eq_ok_iff.mpr ⟨line, hval.symm ▸ hline, rfl⟩
    have hnull : Int64.ofInt count ≠ -1 := by
      intro h
      rw [h] at hval
      exact absurd hval (by simp)
    have hneg : ¬ Int64.ofInt count < 0 := by
      rw [Int64.lt_iff_toInt_lt, hval]
      exact Int.not_lt.mpr (Int.natCast_nonneg count)
    simp only [readLength, hi, Bind.bind, Except.bind, if_neg hnull, if_neg hneg, hval]
    rfl

/-! ## Soundness -/

/-- Items that are read one after the other are the parts that their bytes consist of. -/
theorem exists_parts_of_readItems {item : Reader Reply} {P : Bytes → Reply → Prop}
    (hitem : ∀ b r rest, item b = .ok (r, rest) → ∃ used, b = used ++ rest ∧ P used r)
    {count : Nat} {done items : List Reply} {b rest : Bytes}
    (h : readItems item count done b = .ok (items, rest)) :
    ∃ parts : List (Bytes × Reply), parts.length = count ∧ (∀ p ∈ parts, P p.1 p.2) ∧
      items = done.reverse ++ parts.map Prod.snd ∧
      b = (parts.map Prod.fst).flatten ++ rest := by
  induction count generalizing done b with
  | zero =>
    cases h
    exact ⟨[], by simp⟩
  | succ count ih =>
    rw [readItems] at h
    split at h
    · rename_i r tail hr
      obtain ⟨used, rfl, hused⟩ := hitem b r tail hr
      obtain ⟨parts, hlen, hparts, rfl, rfl⟩ := ih h
      refine ⟨(used, r) :: parts, by simp [hlen], ?_, by simp, by simp⟩
      intro p hp
      rcases List.mem_cons.mp hp with rfl | hp
      · exact hused
      · exact hparts p hp
    · cases h

/-- What is read at the front of a buffer is derived by the bytes that were used up, if that is so
    of what is read behind the mark of an array. -/
theorem derives_of_readFrame {n : Nat} {array : Reader Reply}
    (harray : ∀ b r rest, array b = .ok (r, rest) →
      ∃ used, Bytes.ascii '*' :: b = used ++ rest ∧ Derives n used r)
    {b rest : Bytes} {r : Reply} (h : readFrame array b = .ok (r, rest)) :
    ∃ used, b = used ++ rest ∧ Derives n used r := by
  cases b with
  | nil => cases h
  | cons first bytes =>
    rw [readFrame] at h
    split at h
    · cases h
    · rename_i hkind
      obtain ⟨⟨s, tail⟩, hs, he⟩ := Reply.exists_of_map_ok h
      cases he
      obtain ⟨rfl, hline⟩ := readText_eq_ok_iff.mp hs
      exact ⟨_, cons_eq_lineOf hkind rfl _ _, .status hline⟩
    · rename_i hkind
      obtain ⟨⟨s, tail⟩, hs, he⟩ := Reply.exists_of_map_ok h
      cases he
      obtain ⟨rfl, hline⟩ := readText_eq_ok_iff.mp hs
      exact ⟨_, cons_eq_lineOf hkind rfl _ _, .error hline⟩
    · rename_i hkind
      obtain ⟨⟨i, tail⟩, hi, he⟩ := Reply.exists_of_map_ok h
      cases he
      obtain ⟨line, hline, rfl⟩ := readInteger_eq_ok_iff.mp hi
      exact ⟨_, cons_eq_lineOf hkind rfl _ _, .integer hline⟩
    · rename_i hkind
      obtain ⟨⟨length, tail⟩, hlength, h⟩ := Reply.exists_of_bind_ok h
      cases length with
      | none =>
        cases h
        obtain ⟨line, hline, rfl⟩ := readLength_eq_none_iff.mp hlength
        exact ⟨_, cons_eq_lineOf hkind rfl _ _, .nullBulk hline⟩
      | some length =>
        obtain ⟨⟨data, tail'⟩, hdata, h⟩ := Reply.exists_of_bind_ok h
        cases h
        obtain ⟨rfl, rfl⟩ := readExact_ok hdata
        obtain ⟨line, hline, hsize, rfl⟩ := readLength_eq_some_iff.mp hlength
        refine ⟨_, ?_, .bulk hline hsize⟩
        rw [List.append_assoc, ← cons_eq_lineOf hkind rfl, List.append_assoc]
    · rename_i hkind
      rw [← Kind.byte_of_ofByte? hkind]
      exact harray bytes r rest h

theorem derives_of_readArray {n : Nat} (hn : n < 128) {item : Reader Reply}
    (hitem : ∀ b r rest, item b = .ok (r, rest) →
      ∃ used, b = used ++ rest ∧ Derives (n + 1) used r)
    {b rest : Bytes} {r : Reply} (h : readArray item b = .ok (r, rest)) :
    ∃ used, Bytes.ascii '*' :: b = used ++ rest ∧ Derives n used r := by
  obtain ⟨⟨length, tail⟩, hlength, h⟩ := Reply.exists_of_bind_ok h
  cases length with
  | none =>
    cases h
    obtain ⟨line, hline, rfl⟩ := readLength_eq_none_iff.mp hlength
    exact ⟨_, by rw [lineOf_append], .nullArray hn hline⟩
  | some count =>
    obtain ⟨⟨items, tail'⟩, hitems, h⟩ := Reply.exists_of_bind_ok h
    cases h
    obtain ⟨line, hline, hsize, rfl⟩ := readLength_eq_some_iff.mp hlength
    obtain ⟨parts, rfl, hparts, rfl, rfl⟩ := exists_parts_of_readItems hitem hitems
    refine ⟨_, ?_, .array hn hline hsize hparts⟩
    rw [List.append_assoc, lineOf_append]

end Frame

namespace Reply

open RespLink.Frame

theorem derives_of_readWithin {room n : Nat} (hroom : room + n = 128) {b rest : Bytes} {r : Reply}
    (h : readWithin room b = .ok (r, rest)) : ∃ used, b = used ++ rest ∧ Derives n used r := by
  -- inside 128 arrays there is no room for another, and the reader for arrays only fails
  induction room generalizing n b rest r with
  | zero => exact derives_of_readFrame (fun _ _ _ h => by cases h) h
  | succ room ih =>
    refine derives_of_readFrame (fun _ _ _ h => ?_) h
    exact derives_of_readArray (by omega) (fun _ _ _ h => ih (by omega) h) h

/-! ## Completeness -/

theorem readWithin_of_leaf {b rest : Bytes} {r : Reply}
    (h : ∀ array, readFrame array b = .ok (r, rest)) (room : Nat) :
    readWithin room b = .ok (r, rest) := by
  cases room with
  | zero => exact h _
  | succ room => exact h _

theorem readItems_parts {item : Reader Reply} {parts : List (Bytes × Reply)} (done : List Reply)
    (rest : Bytes) (h : ∀ p ∈ parts, ∀ rest, item (p.1 ++ rest) = .ok (p.2, rest)) :
    readItems item parts.length done ((parts.map Prod.fst).flatten ++ rest)
      = .ok (done.reverse ++ parts.map Prod.snd, rest) := by
  induction parts generalizing done with
  | nil => simp [readItems]
  | cons p parts ih =>
    rw [List.map_cons, List.flatten_cons, List.append_assoc, List.length_cons, readItems,
      h p (by simp)]
    dsimp only
    rw [ih (p.2 :: done) fun q hq => h q (by simp [hq])]
    simp

theorem readWithin_of_derives {n : Nat} {u : Bytes} {r : Reply} (h : Derives n u r) {room : Nat}
    (hroom : room + n = 128) (rest : Bytes) : readWithin room (u ++ rest) = .ok (r, rest) := by
  induction h generalizing room rest with
  | status hline =>
    refine readWithin_of_leaf (fun array => ?_) room
    rw [lineOf_append]
    show (readText _).map _ = _
    rw [readText_eq_ok_iff.mpr ⟨rfl, hline⟩]
    rfl
  | error hline =>
    refine readWithin_of_leaf (fun array => ?_) room
    rw [lineOf_append]
    show (readText _).map _ = _
    rw [readText_eq_ok_iff.mpr ⟨rfl, hline⟩]
    rfl
  | integer hline =>
    refine readWithin_of_leaf (fun array => ?_) room
    rw [lineOf_append]
    show (readInteger _).map _ = _
    rw [readInteger_eq_ok_iff.mpr ⟨_, hline, rfl⟩]
    rfl
  | nullBulk hline =>
    refine readWithin_of_leaf (fun array => ?_) room
    rw [lineOf_append]
    show readBulk _ = _
    simp only [readBulk, readLength_eq_none_iff.mpr ⟨_, hline, rfl⟩, Bind.bind, Except.bind]
  | @bulk n line data hline hsize =>
    refine readWithin_of_leaf (fun array => ?_) room
    rw [List.append_assoc, lineOf_append, List.append_assoc]
    show readBulk _ = _
    have hlength : readLength (line ++ (Bytes.crlf ++ (data ++ (Bytes.crlf ++ rest))))
        = .ok (some data.length, data ++ (Bytes.crlf ++ rest)) :=
      readLength_eq_some_iff.mpr ⟨line, hline, hsize, rfl⟩
    simp only [readBulk, hlength, readExact_data, Bind.bind, Except.bind]
  | nullArray hn hline =>
    obtain ⟨room, rfl⟩ : ∃ m, room = m + 1 := ⟨room - 1, by omega⟩
    rw [lineOf_append]
    show readArray _ _ = _
    simp only [readArray, readLength_eq_none_iff.mpr ⟨_, hline, rfl⟩, Bind.bind, Except.bind]
  | @array n line parts hn hline hsize _ ih =>
    obtain ⟨room, rfl⟩ : ∃ m, room = m + 1 := ⟨room - 1, by omega⟩
    rw [List.append_assoc, lineOf_append]
    show readArray _ _ = _
    have hlength : readLength (line ++ (Bytes.crlf ++ ((parts.map Prod.fst).flatten ++ rest)))
        = .ok (some parts.length, (parts.map Prod.fst).flatten ++ rest) :=
      readLength_eq_some_iff.mpr ⟨line, hline, hsize, rfl⟩
    have hitems : readItems (readWithin room) parts.length [] ((parts.map Prod.fst).flatten ++ rest)
        = .ok ([].reverse ++ parts.map Prod.snd, rest) :=
      readItems_parts [] rest fun p hp => ih p hp (by omega)
    simp only [readArray, hlength, hitems, Bind.bind, Except.bind, List.reverse_nil,
      List.nil_append]

/-! ## Reading decides the grammar -/

/-- What is read, and how many bytes of the buffer are used up for it. -/
def readTo (b : Bytes) : Except FrameFault (Reply × Nat) :=
  (Reply.read b).map fun p => (p.1, b.length - p.2.length)

theorem readTo_of_derives {b : Bytes} {r : Reply} {n : Nat} (hn : n ≤ b.length)
    (h : Derives 0 (b.take n) r) : readTo b = .ok (r, n) := by
  have hread : Reply.read (b.take n ++ b.drop n) = .ok (r, b.drop n) :=
    readWithin_of_derives h rfl (b.drop n)
  rw [List.take_append_drop] at hread
  have hlen : b.length - (b.drop n).length = n := by
    rw [List.length_drop]
    omega
  rw [readTo, hread]
  exact congrArg (fun m => Except.ok (r, m)) hlen

theorem derives_of_readTo {b : Bytes} {r : Reply} {n : Nat} (h : readTo b = .ok (r, n)) :
    n ≤ b.length ∧ Derives 0 (b.take n) r := by
  obtain ⟨⟨s, rest⟩, hread, he⟩ := exists_of_map_ok h
  cases he
  obtain ⟨used, rfl, hused⟩ := derives_of_readWithin (n := 0) rfl hread
  have hlen : (used ++ rest).length - rest.length = used.length := by simp
  rw [hlen, List.take_left]
  exact ⟨by simp, hused⟩

/-- What is read from a buffer, and how far, is what the grammar derives from its front: all of it
    and nothing else. So a buffer has at most one reply at its front, which ends in one place, and
    no frame goes on behind another one. -/
theorem readTo_decides_grammar (b : Bytes) :
    (∀ r n, readTo b = .ok (r, n) ↔ n ≤ b.length ∧ Derives 0 (b.take n) r) ∧
    (∀ r s n m, n ≤ b.length ∧ Derives 0 (b.take n) r → m ≤ b.length ∧ Derives 0 (b.take m) s →
      r = s ∧ n = m) ∧
    ∀ u v r s, Derives 0 u r → Derives 0 v s → u <+: v → u = v := by
  refine ⟨fun r n => ⟨derives_of_readTo, fun h => readTo_of_derives h.1 h.2⟩, ?_, ?_⟩
  · intro r s n m hr hs
    have heq := readTo_of_derives hr.1 hr.2
    rw [readTo_of_derives hs.1 hs.2] at heq
    cases heq
    exact ⟨rfl, rfl⟩
  · rintro u v r s hu hv ⟨w, rfl⟩
    have hfront : Reply.read (u ++ w) = .ok (r, w) := readWithin_of_derives hu rfl w
    have hwhole : Reply.read ((u ++ w) ++ []) = .ok (s, []) := readWithin_of_derives hv rfl []
    rw [List.append_nil, hfront] at hwhole
    cases hwhole
    exact (List.append_nil u).symm

/-- A list with a plus before its count and zeros before a number, then the front of a frame. -/
def signed : Bytes :=
  [42, 43, 50, 13, 10, 36, 45, 48, 49, 13, 10, 58, 45, 48, 48, 55, 13, 10, 58, 49, 13]

theorem readTo_decides_grammar_signed :
    readTo signed = .ok (.array [.nullBulk, .integer (-7)], 18) ∧
    Derives 0 (signed.take 18) (.array [.nullBulk, .integer (-7)]) := by
  have hread : readTo signed = .ok (.array [.nullBulk, .integer (-7)], 18) := rfl
  exact ⟨hread, (((readTo_decides_grammar signed).1 _ _).mp hread).2⟩

end Reply

end RespLink
