import RespLink.Decimal.Numeral
import RespLink.Text.Utf8

/-!
# Numerals — what is written reads back

Reading is more liberal than writing, so only one direction is a law: the canonical spelling of a
number is read as that number. Besides, a canonical spelling holds nothing but digits and perhaps
a minus, which is why it is text and can stand in a line.
-/

namespace RespLink
namespace Decimal

/-! ## Digits -/

theorem digit?_digit {d : Nat} (h : d < 10) : digit? (digit d) = some d := by
  have hd : (digit d).toNat = 48 + d := by
    rw [digit, Nat.toUInt8, UInt8.toNat_ofNat']
    omega
  have hrange : (48 : UInt8) ≤ digit d ∧ digit d ≤ 57 := by
    rw [UInt8.le_iff_toNat_le, UInt8.le_iff_toNat_le, hd]
    exact ⟨Nat.le_add_right 48 d, by simp; omega⟩
  rw [digit?, if_pos hrange, hd, Nat.add_sub_cancel_left]

/-- The digits of `n` read as `n`, and reading goes on behind them. -/
theorem continue?_digitsOnto (fuel : Nat) {n : Nat} (rest : Bytes) (h : n < fuel) :
    continue? 0 (digitsOnto fuel n rest) = continue? n rest := by
  induction fuel generalizing n rest with
  | zero => exact absurd h (Nat.not_lt_zero n)
  | succ fuel ih =>
    rw [digitsOnto]
    split
    · rename_i hn
      simp [continue?, digit?_digit hn]
    · rename_i hn
      have hmod : n % 10 < 10 := Nat.mod_lt n (by decide)
      rw [ih _ (by omega), continue?, digit?_digit hmod]
      exact congrArg (continue? · rest) (by omega)

/-- The numerals that are written begin with a digit, so they have no sign of their own. -/
theorem exists_digit_ofNat (n : Nat) :
    ∃ d tail, d < 10 ∧ ofNat n = digit d :: tail := by
  have haux : ∀ fuel n rest, n < fuel →
      ∃ d tail, d < 10 ∧ digitsOnto fuel n rest = digit d :: tail := by
    intro fuel
    induction fuel with
    | zero => intro n _ h; exact absurd h (Nat.not_lt_zero n)
    | succ fuel ih =>
      intro n rest h
      rw [digitsOnto]
      split
      · rename_i hn
        exact ⟨n, rest, hn, rfl⟩
      · exact ih _ _ (by omega)
  exact haux (n + 1) n [] (Nat.lt_succ_self n)

theorem digits?_ofNat (n : Nat) : digits? (ofNat n) = some n := by
  obtain ⟨d, tail, _, hd⟩ := exists_digit_ofNat n
  have h := continue?_digitsOnto (n + 1) [] (Nat.lt_succ_self n)
  rw [show digitsOnto (n + 1) n [] = ofNat n from rfl, hd] at h
  rw [hd, digits?]
  · exact h
  · simp

/-! ## Integers -/

theorem splitSign_ofNat (n : Nat) : splitSign (ofNat n) = (false, ofNat n) := by
  obtain ⟨d, tail, hlt, hd⟩ := exists_digit_ofNat n
  have hsome := digit?_digit hlt
  have hminus : digit d ≠ minus := fun h => by rw [h] at hsome; cases hsome
  have hplus : digit d ≠ plus := fun h => by rw [h] at hsome; cases hsome
  rw [hd, splitSign, if_neg hminus, if_neg hplus]

theorem splitSign_minus (rest : Bytes) : splitSign (minus :: rest) = (true, rest) := by
  simp [splitSign]

theorem int?_ofInt (i : Int) : int? (ofInt i) = some i := by
  by_cases hneg : i < 0
  · have habs : -(i.natAbs : Int) = i := by omega
    rw [ofInt, if_pos hneg, int?, splitSign_minus]
    show ((digits? (ofNat i.natAbs)).bind fun n => some (n : Int)).map (fun n => -n) = some i
    rw [digits?_ofNat]
    exact congrArg some habs
  · have habs : (i.natAbs : Int) = i := by omega
    rw [ofInt, if_neg hneg, int?, splitSign_ofNat]
    show ((digits? (ofNat i.natAbs)).bind fun n => some (n : Int)).map (fun n => n) = some i
    rw [digits?_ofNat]
    exact congrArg some habs

theorem int64?_ofInt {i : Int} (hlow : Int64.minValue.toInt ≤ i)
    (hhigh : i ≤ Int64.maxValue.toInt) : int64? (ofInt i) = some (Int64.ofInt i) := by
  rw [int64?, int?_ofInt]
  exact if_pos ⟨hlow, hhigh⟩

/-! ## Spelling -/

/-- Whether a byte may stand in a canonical numeral. -/
def IsNumeral (b : UInt8) : Prop := b = minus ∨ ∃ d < 10, b = digit d

theorem isNumeral_digitsOnto {fuel n : Nat} {rest : Bytes} (h : ∀ b ∈ rest, IsNumeral b) :
    ∀ b ∈ digitsOnto fuel n rest, IsNumeral b := by
  induction fuel generalizing n rest with
  | zero => exact h
  | succ fuel ih =>
    have hpush : ∀ d, d < 10 → ∀ b ∈ digit d :: rest, IsNumeral b := by
      intro d hd b hb
      rcases List.mem_cons.mp hb with rfl | hb
      · exact Or.inr ⟨d, hd, rfl⟩
      · exact h b hb
    rw [digitsOnto]
    split
    · exact hpush n ‹_›
    · exact ih (hpush _ (Nat.mod_lt n (by decide)))

theorem isNumeral_ofNat (n : Nat) : ∀ b ∈ ofNat n, IsNumeral b :=
  isNumeral_digitsOnto (by simp)

theorem isNumeral_ofInt (i : Int) : ∀ b ∈ ofInt i, IsNumeral b := by
  intro b hb
  rw [ofInt] at hb
  split at hb
  · rcases List.mem_cons.mp hb with rfl | hb
    · exact Or.inl rfl
    · exact isNumeral_ofNat _ b hb
  · exact isNumeral_ofNat _ b hb

theorem IsNumeral.toNat_lt {b : UInt8} (h : IsNumeral b) : 13 < b.toNat ∧ b.toNat < 128 := by
  rcases h with rfl | ⟨d, hd, rfl⟩
  · decide
  · rw [digit, Nat.toUInt8, UInt8.toNat_ofNat']
    omega

/-- A natural number is spelled alike as a natural number and as an integer. -/
theorem ofInt_natCast (n : Nat) : ofInt (n : Int) = ofNat n := by
  rw [ofInt, if_neg (by omega), Int.natAbs_natCast]

end Decimal

/-! ## ASCII is text -/

namespace Text

theorem toBytes_ofList (cs : List Char) :
    toBytes (String.ofList cs) = cs.flatMap String.utf8EncodeChar := by
  rw [toBytes, String.toByteArray_ofList, List.utf8Encode]
  generalize cs.flatMap String.utf8EncodeChar = bytes
  simp

/-- The character that an ASCII byte stands for. -/
def asciiChar (b : UInt8) : Char := Char.ofNat b.toNat

theorem utf8EncodeChar_asciiChar {b : UInt8} (h : b.toNat < 128) :
    String.utf8EncodeChar (asciiChar b) = [b] := by
  have hval : (asciiChar b).val.toNat = b.toNat := by
    rw [asciiChar, Char.ofNat, dif_pos (Or.inl (by omega))]
    rfl
  simp only [String.utf8EncodeChar, hval]
  rw [if_pos (by omega), UInt8.ofNat_toNat]

/-- Bytes below 128 are the UTF-8 of some text. -/
theorem exists_text_of_ascii {bytes : Bytes} (h : ∀ b ∈ bytes, b.toNat < 128) :
    ∃ s, toBytes s = bytes := by
  refine ⟨String.ofList (bytes.map asciiChar), ?_⟩
  rw [toBytes_ofList]
  induction bytes with
  | nil => rfl
  | cons b bytes ih =>
    rw [List.map_cons, List.flatMap_cons, utf8EncodeChar_asciiChar (h b (by simp)),
      ih fun c hc => h c (by simp [hc])]
    rfl

end Text

end RespLink
