import RespLink.Proofs.Decimal.Numeral
import RespLink.Proofs.Request.Decoding

/-!
# Keywords — what a command is called, and what is sent first

A command is classified by the first word of its name, in capitals, and a server goes by the first
token that it reads, whatever its case. The two agree as long as the name has a word
(`Command.toBytes_keyword_iff`): ASCII's letters are bytes of their own, and no byte of another
character is one of them, so that it makes no difference whether characters are put in capitals or
bytes.

Where the name is blank, though, the arguments are all that is sent. The first of them is then what
the server goes by, and the classification never sees it (`Command.keyword_of_blank`).
-/

namespace RespLink

/-- A byte that spells a small ASCII letter, as the capital; other bytes as they are. -/
def capital (b : UInt8) : UInt8 := if 97 ≤ b ∧ b ≤ 122 then b - 32 else b

theorem capital_of_not {b : UInt8} (h : b.toNat < 97 ∨ 122 < b.toNat) : capital b = b := by
  refine if_neg fun hb => ?_
  rw [UInt8.le_iff_toNat_le, UInt8.le_iff_toNat_le] at hb
  have h97 : (97 : UInt8).toNat = 97 := rfl
  have h122 : (122 : UInt8).toNat = 122 := rfl
  omega

theorem capital_ofNat {n : Nat} (hlow : 97 ≤ n) (hhigh : n ≤ 122) :
    capital (UInt8.ofNat n) = UInt8.ofNat (n - 32) := by
  have hall : ∀ k < 26, capital (UInt8.ofNat (97 + k)) = UInt8.ofNat (65 + k) := by decide
  have hn := hall (n - 97) (by omega)
  rwa [Nat.add_sub_cancel' hlow, show 65 + (n - 97) = n - 32 by omega] at hn

/-! ## Capitals, by character and by byte -/

namespace Text

/-- What is no ASCII character is spelled with bytes that no ASCII character is spelled with. -/
theorem utf8EncodeChar_high {c : Char} (hc : 127 < c.val.toNat) :
    ∀ b ∈ String.utf8EncodeChar c, 127 < b.toNat := by
  have hofNat (n m : Nat) (hm : 128 ≤ m) (hn : n + m < 256) :
      127 < (UInt8.ofNat (n + m)).toNat := by
    rw [UInt8.toNat_ofNat']
    omega
  intro b hb
  simp only [String.utf8EncodeChar, if_neg (Nat.not_le.mpr hc)] at hb
  -- the first byte carries the mark of its length, and each later one that it is a later one
  split at hb
  · simp only [List.mem_cons, List.not_mem_nil, or_false] at hb
    rcases hb with rfl | rfl <;> exact hofNat _ _ (by decide) (by omega)
  split at hb
  · simp only [List.mem_cons, List.not_mem_nil, or_false] at hb
    rcases hb with rfl | rfl | rfl <;> exact hofNat _ _ (by decide) (by omega)
  · simp only [List.mem_cons, List.not_mem_nil, or_false] at hb
    rcases hb with rfl | rfl | rfl | rfl <;> exact hofNat _ _ (by decide) (by omega)

theorem utf8EncodeChar_of_ascii {c : Char} (hc : c.val.toNat ≤ 127) :
    String.utf8EncodeChar c = [UInt8.ofNat c.val.toNat] := by
  simp only [String.utf8EncodeChar, if_pos hc]

theorem utf8EncodeChar_toUpper (c : Char) :
    String.utf8EncodeChar c.toUpper = (String.utf8EncodeChar c).map capital := by
  have ha : ('a'.val).toNat = 97 := rfl
  have hz : ('z'.val).toNat = 122 := rfl
  by_cases hsmall : 97 ≤ c.val.toNat ∧ c.val.toNat ≤ 122
  · have hrange : 'a'.val ≤ c.val ∧ c.val ≤ 'z'.val := by
      rwa [UInt32.le_iff_toNat_le, UInt32.le_iff_toNat_le, ha, hz]
    have hupper : c.toUpper.val.toNat = c.val.toNat - 32 := by
      have hshifted : c.toUpper = _ := dif_pos hrange
      rw [hshifted]
      show (c.val + ('A'.val - 'a'.val)).toNat = _
      have hoffset : ('A'.val - 'a'.val).toNat = 4294967264 := rfl
      rw [UInt32.toNat_add, hoffset]
      omega
    rw [utf8EncodeChar_of_ascii (c := c.toUpper) (by omega), utf8EncodeChar_of_ascii (by omega),
      hupper, List.map_singleton, capital_ofNat hsmall.1 hsmall.2]
  · have hrange : ¬ ('a'.val ≤ c.val ∧ c.val ≤ 'z'.val) := by
      rwa [UInt32.le_iff_toNat_le, UInt32.le_iff_toNat_le, ha, hz]
    have hfixed : ∀ b ∈ String.utf8EncodeChar c, capital b = b := by
      intro b hb
      refine capital_of_not ?_
      by_cases hascii : c.val.toNat ≤ 127
      · rw [utf8EncodeChar_of_ascii hascii, List.mem_singleton] at hb
        rw [hb, UInt8.toNat_ofNat']
        omega
      · have hhigh := utf8EncodeChar_high (Nat.lt_of_not_le hascii) b hb
        omega
    have hsame : c.toUpper = c := dif_neg hrange
    rw [hsame, List.map_congr_left hfixed]
    exact (List.map_id' _).symm

theorem toBytes_toUpper (s : String) : toBytes s.toUpper = (toBytes s).map capital := by
  have hs : s.toUpper = String.ofList (s.toList.map Char.toUpper) := by
    rw [← String.ofList_toList (s := s.toUpper), String.toUpper, String.toList_map]
  rw [hs, toBytes_ofList]
  have hbytes : toBytes s = s.toList.flatMap String.utf8EncodeChar := by
    rw [← toBytes_ofList, String.ofList_toList]
  rw [hbytes, List.map_flatMap, List.flatMap_map]
  exact congrArg (List.flatMap · s.toList) (funext utf8EncodeChar_toUpper)

end Text

/-! ## Classification -/

namespace Command

/-- Whether the first token of a request is a word, up to the case of ASCII letters. -/
def begins (c : Command) (word : String) : Bool :=
  c.tokens.head?.any fun t => t.map capital = Text.toBytes word

/-- Whether a request is one that changes what is subscribed, as a server sees it. -/
def subscribes (c : Command) : Bool :=
  ["SUBSCRIBE", "PSUBSCRIBE", "UNSUBSCRIBE", "PUNSUBSCRIBE"].any c.begins

variable {c d : Command}

theorem begins_congr (h : c.tokens = d.tokens) (word : String) : c.begins word = d.begins word := by
  rw [begins, begins, h]

theorem subscribes_congr (h : c.tokens = d.tokens) : c.subscribes = d.subscribes := by
  rw [subscribes, subscribes, funext (begins_congr h)]

/-- The first token is the first word of the name, if there is one. -/
theorem exists_first (h : c.words ≠ []) :
    ∃ word rest, c.tokens = Text.toBytes word :: rest ∧ c.keyword = word.toUpper := by
  obtain ⟨word, words, hwords⟩ := List.exists_cons_of_ne_nil h
  refine ⟨word, words.map Text.toBytes ++ c.args, ?_, ?_⟩
  · rw [tokens, hwords, List.map_cons, List.cons_append]
  · rw [keyword, hwords]
    rfl

theorem begins_iff (h : c.words ≠ []) (word : String) : c.begins word ↔ c.keyword = word := by
  obtain ⟨first, rest, htokens, hkeyword⟩ := exists_first h
  have hbegins : c.begins word = decide ((Text.toBytes first).map capital = Text.toBytes word) := by
    rw [begins, htokens]
    rfl
  rw [hbegins, decide_eq_true_eq, ← Text.toBytes_toUpper, hkeyword]
  exact ⟨Text.toBytes_injective, congrArg Text.toBytes⟩

theorem encode_of_head {t : Bytes} (h : c.tokens.head? = some t) :
    ∃ tail, c.encode = c.header ++ (bulkFrame t ++ tail) := by
  obtain ⟨rest, hrest⟩ := List.head?_eq_some_iff.mp h
  refine ⟨(rest.map bulkFrame).flatten, ?_⟩
  rw [encode, hrest, List.map_cons, List.flatten_cons]

theorem keyword_beq (h : c.words ≠ []) (word : String) : (c.keyword == word) = c.begins word := by
  rw [Bool.eq_iff_iff, begins_iff h, beq_iff_eq]

theorem isSubscriptionChange_eq (h : c.words ≠ []) : c.isSubscriptionChange = c.subscribes := by
  rw [Bool.eq_iff_iff, isSubscriptionChange, decide_eq_true_eq, subscribes, List.any_eq_true]
  constructor
  · intro hmem
    exact ⟨c.keyword, hmem, (begins_iff h _).mpr rfl⟩
  · rintro ⟨word, hmem, hword⟩
    rwa [(begins_iff h word).mp hword]

/-- A blank name classifies its command as nothing, whatever its arguments are. -/
theorem keyword_of_blank (h : c.words = []) : c.keyword = "" ∧ c.isMulti = false ∧
    c.isExec = false ∧ c.isDiscard = false ∧ c.isSubscriptionChange = false := by
  have hkeyword : c.keyword = "" := by
    rw [keyword, h]
    decide +kernel
  refine ⟨hkeyword, ?_, ?_, ?_, ?_⟩
  · rw [isMulti, hkeyword]
    rfl
  · rw [isExec, hkeyword]
    rfl
  · rw [isDiscard, hkeyword]
    rfl
  · rw [isSubscriptionChange, hkeyword]
    decide

/-- The keyword is the first token of the request in capitals, unless there is no name and the
    first argument takes its place. -/
theorem toBytes_keyword_iff {t : Bytes} (h : c.tokens.head? = some t) :
    Text.toBytes c.keyword = t.map capital ↔ c.words ≠ [] ∨ t = [] := by
  by_cases hwords : c.words = []
  · have hempty : Text.toBytes c.keyword = [] := by
      rw [(keyword_of_blank hwords).1]
      decide
    simp [hwords, hempty, eq_comm]
  · obtain ⟨word, rest, htokens, hkeyword⟩ := exists_first hwords
    rw [htokens, List.head?_cons, Option.some.injEq] at h
    simp [hwords, hkeyword, Text.toBytes_toUpper, h]

/-! ## On the wire -/

theorem encode_ne_nil (c : Command) : c.encode ≠ [] := by
  rw [encode, header, arrayHeader, Kind.line, List.cons_append, List.cons_append]
  exact List.cons_ne_nil _ _

theorem encodeAll_cons (c : Command) (commands : List Command) :
    encodeAll (c :: commands) = c.encode ++ encodeAll commands := by
  rw [encodeAll, List.map_cons, List.flatten_cons, encodeAll]

/-- Whether a request is on the wire, behind others that are there in full. -/
def OnWire (wire : Bytes) (c : Command) : Prop :=
  ∃ (before : List Command) (after : Bytes), wire = encodeAll before ++ (c.encode ++ after)

/-- If what is on the wire is the front of some requests, a request that is there is one of them. -/
theorem OnWire.exists_mem {wire : Bytes} {written : List Command} (h : c.OnWire wire)
    (hwire : wire <+: encodeAll written) : ∃ d ∈ written, d.tokens = c.tokens := by
  obtain ⟨before, after, rfl⟩ := h
  obtain ⟨rest, hrest⟩ := hwire
  induction before generalizing written with
  | nil =>
    rw [encodeAll_nil, List.nil_append, List.append_assoc] at hrest
    cases written with
    | nil => exact absurd (List.append_eq_nil_iff.mp hrest).1 c.encode_ne_nil
    | cons d written =>
      rw [encodeAll_cons] at hrest
      exact ⟨d, List.mem_cons_self, (encode_append_inj hrest).1.symm⟩
  | cons b before ih =>
    rw [encodeAll_cons, List.append_assoc, List.append_assoc] at hrest
    cases written with
    | nil => exact absurd (List.append_eq_nil_iff.mp hrest).1 b.encode_ne_nil
    | cons d written =>
      rw [encodeAll_cons] at hrest
      obtain ⟨d', hd', htokens⟩ := ih ((List.append_assoc _ _ _).trans (encode_append_inj hrest).2)
      exact ⟨d', List.mem_cons_of_mem _ hd', htokens⟩

/-- What is on the wire are requests for which `P` holds, the last of them perhaps in part. -/
def Only (P : Command → Prop) (wire : Bytes) : Prop :=
  ∃ written, wire <+: encodeAll written ∧ ∀ d ∈ written, P d

theorem Only.exists_of_onWire {P : Command → Prop} {wire : Bytes} (h : Only P wire)
    (hc : c.OnWire wire) : ∃ d, P d ∧ d.tokens = c.tokens := by
  obtain ⟨written, hwire, hall⟩ := h
  obtain ⟨d, hd, htokens⟩ := hc.exists_mem hwire
  exact ⟨d, hall d hd, htokens⟩

/-- Where only requests are that do not subscribe, no request is found that does. -/
theorem Only.not_subscribes {wire : Bytes} (h : Only (fun d => d.subscribes = false) wire)
    (hc : c.OnWire wire) : c.subscribes = false := by
  obtain ⟨d, hd, htokens⟩ := h.exists_of_onWire hc
  rw [← subscribes_congr htokens]
  exact hd

end Command

end RespLink
