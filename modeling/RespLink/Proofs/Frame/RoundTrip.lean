import RespLink.Frame.Writer
import RespLink.Proofs.Decimal.Numeral
import RespLink.Proofs.Frame.Steady

/-!
# Round trip — which replies survive the wire

Every reply can be written, but not everything that is written is read as it was meant. A text
with a line end in it ends early, and an array inside too many others is refused. These are the
only two losses: a reply without them is read back whatever follows it in the buffer, and a reply
with one of them never is.

The second half needs no look at what is written. Whatever a reader answers is *legible*, since a
line has no line end in it and a reader with little room answers nothing deep; so a reply that is
not legible is no answer to anything.
-/

namespace RespLink

namespace Reply

/-! ## Parts of a reply -/

/-- `r.Part n s`: inside `n` arrays, one in the other, stands `s` in `r`. -/
inductive Part : Reply → Nat → Reply → Prop
  | self (r : Reply) : Part r 0 r
  | item {items : List Reply} {r s : Reply} {n : Nat} :
    r ∈ items → Part r n s → Part (.array items) (n + 1) s

/-- The text of a reply that is sent as one line. -/
def lineText? : Reply → Option String
  | .status text | .error text => some text
  | _ => none

/-- Whether a reply is sent as an array; the null one is, too. -/
def isArray : Reply → Bool
  | .array _ | .nullArray => true
  | _ => false

/-- The length that is announced before a byte string or an array. -/
def announced : Reply → Nat
  | .bulk data => data.length
  | .array items => items.length
  | _ => 0

/-- What can be read where `room` levels of arrays are permitted. -/
structure Legible (room : Nat) (r : Reply) : Prop where
  /-- No text has a line end in it. -/
  text : ∀ n s t, r.Part n s → s.lineText? = some t → ¬ Bytes.crlf <:+: Text.toBytes t
  /-- No array stands inside `room` others or more. -/
  depth : ∀ n s, r.Part n s → s.isArray → n < room

theorem Part.eq_of_leaf {r s : Reply} {n : Nat} (h : r.Part n s)
    (hr : ∀ items, r ≠ .array items) : n = 0 ∧ s = r := by
  cases h with
  | self => exact ⟨rfl, rfl⟩
  | item _ _ => exact absurd rfl (hr _)

theorem forall_part_leaf {r : Reply} {P : Nat → Reply → Prop} (hr : ∀ items, r ≠ .array items) :
    (∀ n s, r.Part n s → P n s) ↔ P 0 r := by
  constructor
  · intro h
    exact h 0 r (.self r)
  · intro h n s hp
    obtain ⟨rfl, rfl⟩ := hp.eq_of_leaf hr
    exact h

theorem forall_part_array {items : List Reply} {P : Nat → Reply → Prop} :
    (∀ n s, (array items).Part n s → P n s) ↔
      P 0 (array items) ∧ ∀ r ∈ items, ∀ n s, r.Part n s → P (n + 1) s := by
  constructor
  · intro h
    exact ⟨h 0 _ (.self _), fun r hm n s hp => h (n + 1) s (.item hm hp)⟩
  · rintro ⟨hself, hitems⟩ n s hp
    cases hp with
    | self => exact hself
    | item hm hp => exact hitems _ hm _ _ hp

theorem Legible.of_leaf {room : Nat} {r : Reply} (hr : ∀ items, r ≠ .array items)
    (htext : ∀ t, r.lineText? = some t → ¬ Bytes.crlf <:+: Text.toBytes t)
    (hdepth : r.isArray → 0 < room) : Legible room r where
  text n s t hp ht := by
    obtain ⟨rfl, rfl⟩ := hp.eq_of_leaf hr
    exact htext t ht
  depth n s hp ha := by
    obtain ⟨rfl, rfl⟩ := hp.eq_of_leaf hr
    exact hdepth ha

theorem Legible.of_items {room : Nat} {items : List Reply} (h : ∀ r ∈ items, Legible room r) :
    Legible (room + 1) (.array items) where
  text n s t hp ht := by
    cases hp with
    | self => cases ht
    | item hm hp => exact (h _ hm).text _ _ _ hp ht
  depth n s hp ha := by
    cases hp with
    | self => exact Nat.succ_pos room
    | item hm hp => exact Nat.succ_lt_succ ((h _ hm).depth _ _ hp ha)

theorem Legible.item {room : Nat} {items : List Reply} {r : Reply}
    (h : Legible (room + 1) (.array items)) (hm : r ∈ items) : Legible room r where
  text n s t hp ht := h.text (n + 1) s t (.item hm hp) ht
  depth n s hp ha := Nat.lt_of_succ_lt_succ (h.depth (n + 1) s (.item hm hp) ha)

end Reply

namespace Frame

/-! ## Canonical lines -/

theorem not_crlf_infix_ofInt (i : Int) : ¬ Bytes.crlf <:+: Decimal.ofInt i := by
  intro h
  have hcr : Bytes.cr ∈ Decimal.ofInt i := h.subset (by simp [Bytes.crlf])
  exact absurd (Decimal.isNumeral_ofInt i _ hcr).toNat_lt.1 (by decide)

theorem readText_line {s : String} (rest : Bytes) (h : ¬ Bytes.crlf <:+: Text.toBytes s) :
    readText (Text.toBytes s ++ (Bytes.crlf ++ rest)) = .ok (s, rest) := by
  simp [readText, readLine_line rest h, Bind.bind, Except.bind, Text.ofBytes?_toBytes]

theorem readInteger_line {i : Int} (rest : Bytes) (hlow : Int64.minValue.toInt ≤ i)
    (hhigh : i ≤ Int64.maxValue.toInt) :
    readInteger (Decimal.ofInt i ++ (Bytes.crlf ++ rest)) = .ok (Int64.ofInt i, rest) := by
  obtain ⟨s, hs⟩ := Text.exists_text_of_ascii fun b hb =>
    (Decimal.isNumeral_ofInt i b hb).toNat_lt.2
  have htext : readText (Decimal.ofInt i ++ (Bytes.crlf ++ rest)) = .ok (s, rest) := by
    rw [← hs]
    exact readText_line rest (hs ▸ not_crlf_infix_ofInt i)
  simp [readInteger, htext, Bind.bind, Except.bind, hs, Decimal.int64?_ofInt hlow hhigh]

theorem readLength_null (rest : Bytes) :
    readLength (Decimal.ofInt (-1) ++ (Bytes.crlf ++ rest)) = .ok (none, rest) := by
  have h := readInteger_line rest (i := -1) (by decide) (by decide)
  simp only [readLength, h, Bind.bind, Except.bind]
  rfl

theorem readLength_count {n : Nat} (rest : Bytes) (h : n ≤ Int64.maxValue.toInt) :
    readLength (Decimal.ofNat n ++ (Bytes.crlf ++ rest)) = .ok (some n, rest) := by
  have hlow : Int64.minValue.toInt ≤ n := by
    rw [Int64.toInt_minValue]
    omega
  have hline := readInteger_line rest hlow h
  have hint : (Int64.ofInt n).toInt = n := by
    rw [← Int64.ofIntLE_eq_ofInt hlow h, Int64.toInt_ofIntLE]
  have hneg : ¬ Int64.ofInt n < 0 := by
    rw [Int64.lt_iff_toInt_lt, hint]
    simp
  have hnull : Int64.ofInt n ≠ -1 := by
    intro he
    rw [he] at hint
    exact absurd hint (by simp)
  rw [Decimal.ofInt_natCast] at hline
  simp only [readLength, hline, Bind.bind, Except.bind, hneg, hnull, hint, if_false,
    Int.toNat_natCast]

/-! ## Written frames are read -/

theorem readBulk_bulk {data : Bytes} (rest : Bytes) (h : data.length ≤ Int64.maxValue.toInt) :
    readBulk (Decimal.ofNat data.length ++ (Bytes.crlf ++ (data ++ (Bytes.crlf ++ rest))))
      = .ok (.bulk data, rest) := by
  simp [readBulk, readLength_count _ h, readExact_data, Bind.bind, Except.bind]

theorem readItems_frames {item : Reader Reply} {items : List Reply} (done : List Reply)
    (rest : Bytes) (h : ∀ r ∈ items, ∀ rest, item (r.frame ++ rest) = .ok (r, rest)) :
    readItems item items.length done ((items.map Reply.frame).flatten ++ rest)
      = .ok (done.reverse ++ items, rest) := by
  induction items generalizing done with
  | nil => simp [readItems]
  | cons r items ih =>
    have hr := h r (by simp) ((items.map Reply.frame).flatten ++ rest)
    have hrest := ih (r :: done) fun s hs => h s (by simp [hs])
    rw [List.map_cons, List.flatten_cons, List.append_assoc, List.length_cons, readItems, hr]
    simpa using hrest

theorem readArray_items {item : Reader Reply} {items : List Reply} (rest : Bytes)
    (hlen : items.length ≤ Int64.maxValue.toInt)
    (h : ∀ r ∈ items, ∀ rest, item (r.frame ++ rest) = .ok (r, rest)) :
    readArray item (Decimal.ofNat items.length ++ (Bytes.crlf ++
      ((items.map Reply.frame).flatten ++ rest))) = .ok (.array items, rest) := by
  simp [readArray, readLength_count _ hlen, readItems_frames [] rest h, Bind.bind, Except.bind]

end Frame

namespace Reply

open RespLink.Frame

theorem line_append (kind : Kind) (content rest : Bytes) :
    kind.line content ++ rest = kind.byte :: (content ++ (Bytes.crlf ++ rest)) := by
  simp [Kind.line]

/-- A leaf is read back whatever is permitted as an array. -/
theorem readFrame_leaf (array : Reader Reply) {r : Reply} (rest : Bytes) (ha : r.isArray = false)
    (htext : ∀ t, r.lineText? = some t → ¬ Bytes.crlf <:+: Text.toBytes t)
    (hsize : r.announced ≤ Int64.maxValue.toInt) :
    readFrame array (r.frame ++ rest) = .ok (r, rest) := by
  cases r with
  | status s =>
    rw [frame, line_append]
    show (readText _).map _ = _
    rw [readText_line rest (htext s rfl)]
    rfl
  | error s =>
    rw [frame, line_append]
    show (readText _).map _ = _
    rw [readText_line rest (htext s rfl)]
    rfl
  | integer i =>
    rw [frame, line_append]
    show (readInteger _).map _ = _
    rw [readInteger_line rest i.minValue_le_toInt i.toInt_le, Int64.ofInt_toInt]
    rfl
  | bulk data =>
    rw [frame, bulkFrame, List.append_assoc, List.append_assoc, line_append]
    exact readBulk_bulk rest hsize
  | nullBulk =>
    rw [frame, line_append]
    show readBulk _ = _
    simp only [readBulk, readLength_null, Bind.bind, Except.bind]
  | array _ => cases ha
  | nullArray => cases ha

theorem readWithin_frame {room : Nat} {r : Reply} (rest : Bytes) (h : Legible room r)
    (hsize : ∀ n s, r.Part n s → s.announced ≤ Int64.maxValue.toInt) :
    readWithin room (r.frame ++ rest) = .ok (r, rest) := by
  induction room generalizing r rest with
  | zero =>
    have ha : r.isArray = false :=
      Bool.eq_false_iff.mpr fun ha => Nat.not_lt_zero 0 (h.depth 0 r (.self r) ha)
    exact readFrame_leaf _ rest ha (h.text 0 r · (.self r)) (hsize 0 r (.self r))
  | succ room ih =>
    have hleaf (ha : r.isArray = false) : readWithin (room + 1) (r.frame ++ rest) = .ok (r, rest) :=
      readFrame_leaf _ rest ha (h.text 0 r · (.self r)) (hsize 0 r (.self r))
    cases r with
    | array items =>
      have hitems : ∀ r ∈ items, ∀ rest, readWithin room (r.frame ++ rest) = .ok (r, rest) :=
        fun r hm rest => ih rest (h.item hm) fun n s hp => hsize (n + 1) s (.item hm hp)
      rw [frame_array, arrayHeader, List.append_assoc, line_append]
      exact readArray_items rest (hsize 0 _ (.self _)) hitems
    | nullArray =>
      rw [frame, line_append]
      show readArray _ _ = _
      simp only [readArray, readLength_null, Bind.bind, Except.bind]
    | status s => exact hleaf rfl
    | error s => exact hleaf rfl
    | integer i => exact hleaf rfl
    | bulk data => exact hleaf rfl
    | nullBulk => exact hleaf rfl

/-! ## What is read is legible -/

theorem exists_of_map_ok {ε α β : Type} {x : Except ε α} {f : α → β} {b : β}
    (h : x.map f = .ok b) : ∃ a, x = .ok a ∧ f a = b := by
  cases x with
  | error e => cases h
  | ok a => cases h; exact ⟨a, rfl, rfl⟩

theorem exists_of_bind_ok {ε α β : Type} {x : Except ε α} {f : α → Except ε β} {b : β}
    (h : x >>= f = .ok b) : ∃ a, x = .ok a ∧ f a = .ok b := by
  cases x with
  | error e => cases h
  | ok a => exact ⟨a, rfl, h⟩

theorem lineText_of_readText {b rest : Bytes} {s : String} (h : readText b = .ok (s, rest)) :
    ¬ Bytes.crlf <:+: Text.toBytes s := by
  obtain ⟨⟨line, tail⟩, hline, h⟩ := exists_of_bind_ok h
  dsimp only at h
  split at h
  · rename_i t ht
    cases h
    rw [Text.toBytes_of_ofBytes? ht]
    exact (exists_line_of_readLine hline).2
  · cases h

theorem eq_bulk_of_readBulk {b rest : Bytes} {r : Reply} (h : readBulk b = .ok (r, rest)) :
    r = .nullBulk ∨ ∃ data, r = .bulk data := by
  obtain ⟨⟨length, tail⟩, -, h⟩ := exists_of_bind_ok h
  cases length with
  | none => cases h; exact Or.inl rfl
  | some n =>
    obtain ⟨⟨data, tail⟩, -, h⟩ := exists_of_bind_ok h
    cases h
    exact Or.inr ⟨data, rfl⟩

theorem eq_items_of_readArray {item : Reader Reply} {b rest : Bytes} {r : Reply}
    (h : readArray item b = .ok (r, rest)) : r = .nullArray ∨
      ∃ items count tail, r = .array items ∧ readItems item count [] tail = .ok (items, rest) := by
  obtain ⟨⟨length, tail⟩, -, h⟩ := exists_of_bind_ok h
  cases length with
  | none => cases h; exact Or.inl rfl
  | some count =>
    obtain ⟨⟨items, tail'⟩, hitems, h⟩ := exists_of_bind_ok h
    cases h
    exact Or.inr ⟨items, count, tail, rfl, hitems⟩

/-- What holds of everything that `item` reads holds of the items of an array. -/
theorem forall_mem_of_readItems {item : Reader Reply} {P : Reply → Prop}
    (hitem : ∀ b r rest, item b = .ok (r, rest) → P r) {count : Nat} {done items : List Reply}
    {b rest : Bytes} (hdone : ∀ r ∈ done, P r)
    (h : readItems item count done b = .ok (items, rest)) : ∀ r ∈ items, P r := by
  induction count generalizing done b with
  | zero =>
    cases h
    intro r hr
    exact hdone r (List.mem_reverse.mp hr)
  | succ count ih =>
    rw [readItems] at h
    split at h
    · rename_i r tail hr
      refine ih ?_ h
      intro s hs
      rcases List.mem_cons.mp hs with rfl | hs
      · exact hitem b s tail hr
      · exact hdone s hs
    · cases h

/-- A frame that is read is an array, or a leaf that any room is enough for. -/
theorem readFrame_ok {array : Reader Reply} {b rest : Bytes} {r : Reply}
    (h : readFrame array b = .ok (r, rest)) :
    (∃ bytes, array bytes = .ok (r, rest)) ∨ ∀ room, Legible room r := by
  cases b with
  | nil => cases h
  | cons first bytes =>
    rw [readFrame] at h
    split at h
    · cases h
    · obtain ⟨⟨s, tail⟩, hs, he⟩ := exists_of_map_ok h
      cases he
      refine Or.inr fun room => .of_leaf (by simp) (fun t ht => ?_) (by simp [isArray])
      cases ht
      exact lineText_of_readText hs
    · obtain ⟨⟨s, tail⟩, hs, he⟩ := exists_of_map_ok h
      cases he
      refine Or.inr fun room => .of_leaf (by simp) (fun t ht => ?_) (by simp [isArray])
      cases ht
      exact lineText_of_readText hs
    · obtain ⟨⟨i, tail⟩, hi, he⟩ := exists_of_map_ok h
      cases he
      exact Or.inr fun room => .of_leaf (by simp) (by simp [lineText?]) (by simp [isArray])
    · refine Or.inr fun room => ?_
      rcases eq_bulk_of_readBulk h with rfl | ⟨data, rfl⟩
      · exact .of_leaf (by simp) (by simp [lineText?]) (by simp [isArray])
      · exact .of_leaf (by simp) (by simp [lineText?]) (by simp [isArray])
    · exact Or.inl ⟨bytes, h⟩

theorem legible_of_readWithin {room : Nat} {b rest : Bytes} {r : Reply}
    (h : readWithin room b = .ok (r, rest)) : Legible room r := by
  induction room generalizing b rest r with
  | zero =>
    rcases readFrame_ok h with ⟨bytes, ha⟩ | hleaf
    · cases ha
    · exact hleaf 0
  | succ room ih =>
    rcases readFrame_ok h with ⟨bytes, ha⟩ | hleaf
    · rcases eq_items_of_readArray ha with rfl | ⟨items, count, tail, rfl, hitems⟩
      · exact .of_leaf (by simp) (by simp [lineText?]) (fun _ => Nat.succ_pos room)
      · exact .of_items (forall_mem_of_readItems (fun b r rest => ih) (by simp) hitems)
    · exact hleaf (room + 1)

/-- A reply is read back from what was written for it, whatever follows in the buffer and with
    nothing of that taken, exactly if no text in it has a line end and none of its arrays stands
    inside 128 others. -/
theorem read_frame_append_iff (r : Reply) (rest : Bytes)
    (hsize : ∀ n s, r.Part n s → s.announced ≤ Int64.maxValue.toInt) :
    Reply.read (r.frame ++ rest) = .ok (r, rest) ↔
      (∀ n s t, r.Part n s → s.lineText? = some t → ¬ Bytes.crlf <:+: Text.toBytes t) ∧
      ∀ n s, r.Part n s → s.isArray → n < 128 := by
  constructor
  · intro h
    have hlegible := legible_of_readWithin h
    exact ⟨hlegible.text, hlegible.depth⟩
  · rintro ⟨htext, hdepth⟩
    exact readWithin_frame rest ⟨htext, hdepth⟩ hsize

/-- A reply with a text that ends in half a line end, a line end in its data, and arrays of
    nothing. -/
def awkward : Reply :=
  .array [.status "a\r", .bulk Bytes.crlf, .array [.array [], .nullArray, .nullBulk], .error "\n"]

theorem read_frame_append_iff_awkward :
    (∀ n s, awkward.Part n s → s.announced ≤ Int64.maxValue.toInt) ∧
    (Reply.read (awkward.frame ++ [Bytes.lf]) = .ok (awkward, [Bytes.lf]) ↔
      (∀ n s t, awkward.Part n s → s.lineText? = some t → ¬ Bytes.crlf <:+: Text.toBytes t) ∧
      ∀ n s, awkward.Part n s → s.isArray → n < 128) := by
  have hsize : ∀ n s, awkward.Part n s → s.announced ≤ Int64.maxValue.toInt := by
    simp [awkward, forall_part_array, forall_part_leaf, announced, Bytes.crlf,
      Int64.toInt_maxValue]
  exact ⟨hsize, read_frame_append_iff awkward [Bytes.lf] hsize⟩

end Reply

end RespLink
