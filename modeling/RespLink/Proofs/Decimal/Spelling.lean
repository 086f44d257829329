import Mathlib.Data.List.Induction
import RespLink.Proofs.Decimal.Numeral

/-!
# Spellings — every way to write a number that is read

What is written has one spelling, but leading zeros and a plus are read as well, so a number has
infinitely many. `Digits` and `Spells` say which, without a word about how they are read:

    Digits:  one digit, or digits with one more behind them
    Spells:  digits, after a plus, a minus or nothing

The readers are then exact. `digits?` and `int?` answer with a number if and only if the bytes
spell it, and `int64?` if and only if it has 64 bits besides.
-/

namespace RespLink
namespace Decimal

/-- Digits, and the number that they are in base ten. -/
inductive Digits : Bytes → Nat → Prop
  | one {d : Nat} : d < 10 → Digits [digit d] d
  | more {bytes : Bytes} {n d : Nat} :
    Digits bytes n → d < 10 → Digits (bytes ++ [digit d]) (10 * n + d)

/-- Digits after at most one sign, and the number that they stand for. -/
inductive Spells : Bytes → Int → Prop
  | plain {bytes : Bytes} {n : Nat} : Digits bytes n → Spells bytes n
  | plus {bytes : Bytes} {n : Nat} : Digits bytes n → Spells (plus :: bytes) n
  | minus {bytes : Bytes} {n : Nat} : Digits bytes n → Spells (minus :: bytes) (-n)

/-! ## Digits -/

theorem eq_digit_of_digit? {b : UInt8} {d : Nat} (h : digit? b = some d) :
    d < 10 ∧ b = digit d := by
  rw [digit?] at h
  split at h
  · rename_i hrange
    rw [UInt8.le_iff_toNat_le, UInt8.le_iff_toNat_le] at hrange
    have hlow : 48 ≤ b.toNat := hrange.1
    have hhigh : b.toNat ≤ 57 := hrange.2
    cases h
    refine ⟨by omega, ?_⟩
    rw [digit, Nat.add_sub_cancel' hlow, Nat.toUInt8, UInt8.ofNat_toNat]
  · cases h

theorem continue?_snoc (value : Nat) (bytes : Bytes) (b : UInt8) :
    continue? value (bytes ++ [b])
      = (continue? value bytes).bind fun n => (digit? b).map fun d => 10 * n + d := by
  induction bytes generalizing value with
  | nil => cases h : digit? b <;> simp [continue?, h]
  | cons a bytes ih =>
    rw [List.cons_append, continue?, continue?]
    cases digit? a with
    | none => rfl
    | some d => exact ih _

theorem digits?_of_ne_nil {bytes : Bytes} (h : bytes ≠ []) :
    digits? bytes = continue? 0 bytes := by
  cases bytes with
  | nil => exact absurd rfl h
  | cons b bytes => rfl

theorem Digits.ne_nil {bytes : Bytes} {n : Nat} (h : Digits bytes n) : bytes ≠ [] := by
  cases h with
  | one _ => simp
  | more _ _ => simp

theorem Digits.read {bytes : Bytes} {n : Nat} (h : Digits bytes n) :
    digits? bytes = some n := by
  induction h with
  | one hd => simp [digits?, continue?, digit?_digit hd]
  | more hbytes hd ih =>
    rw [digits?_of_ne_nil hbytes.ne_nil] at ih
    rw [digits?_of_ne_nil (by simp), continue?_snoc, ih, digit?_digit hd]
    rfl

theorem digits_of_read {bytes : Bytes} {n : Nat} (h : digits? bytes = some n) :
    Digits bytes n := by
  induction bytes using List.reverseRecOn generalizing n with
  | nil => cases h
  | append_singleton bytes b ih =>
    rw [digits?_of_ne_nil (by simp), continue?_snoc] at h
    obtain ⟨m, hm, h⟩ := Option.bind_eq_some_iff.mp h
    obtain ⟨d, hb, rfl⟩ := Option.map_eq_some_iff.mp h
    obtain ⟨hd, rfl⟩ := eq_digit_of_digit? hb
    by_cases hnil : bytes = []
    · subst hnil
      cases hm
      simpa using Digits.one hd
    · exact .more (ih (digits?_of_ne_nil hnil ▸ hm)) hd

theorem digits?_eq_some_iff {bytes : Bytes} {n : Nat} :
    digits? bytes = some n ↔ Digits bytes n :=
  ⟨digits_of_read, Digits.read⟩

theorem Digits.forall_isNumeral {bytes : Bytes} {n : Nat} (h : Digits bytes n) :
    ∀ b ∈ bytes, IsNumeral b := by
  induction h with
  | one hd =>
    intro b hb
    exact Or.inr ⟨_, hd, List.mem_singleton.mp hb⟩
  | more _ hd ih =>
    intro b hb
    rcases List.mem_append.mp hb with hb | hb
    · exact ih b hb
    · exact Or.inr ⟨_, hd, List.mem_singleton.mp hb⟩

/-! ## Signs -/

theorem splitSign_plus (rest : Bytes) : splitSign (plus :: rest) = (false, rest) := by
  rw [splitSign, if_neg (by decide), if_pos rfl]

theorem Digits.splitSign {bytes : Bytes} {n : Nat} (h : Digits bytes n) :
    Decimal.splitSign bytes = (false, bytes) := by
  have hread := h.read
  cases bytes with
  | nil => rfl
  | cons b bytes =>
    have hminus : b ≠ Decimal.minus := by rintro rfl; cases hread
    have hplus : b ≠ Decimal.plus := by rintro rfl; cases hread
    rw [Decimal.splitSign, if_neg hminus, if_neg hplus]

theorem int?_eq_of_splitSign {bytes rest : Bytes} {negative : Bool}
    (h : splitSign bytes = (negative, rest)) :
    int? bytes = (digits? rest).map fun n : Nat => if negative then -(n : Int) else n := by
  rw [int?, h]
  dsimp only
  cases digits? rest <;> rfl

theorem Spells.read {bytes : Bytes} {i : Int} (h : Spells bytes i) : int? bytes = some i := by
  cases h with
  | plain hd => rw [int?_eq_of_splitSign hd.splitSign, hd.read]; rfl
  | plus hd => rw [int?_eq_of_splitSign (splitSign_plus _), hd.read]; rfl
  | minus hd => rw [int?_eq_of_splitSign (splitSign_minus _), hd.read]; rfl

theorem spells_of_read {bytes : Bytes} {i : Int} (h : int? bytes = some i) : Spells bytes i := by
  cases bytes with
  | nil => cases h
  | cons b bytes =>
    by_cases hminus : b = minus
    · subst hminus
      rw [int?_eq_of_splitSign (splitSign_minus bytes)] at h
      obtain ⟨n, hn, rfl⟩ := Option.map_eq_some_iff.mp h
      exact .minus (digits?_eq_some_iff.mp hn)
    · by_cases hplus : b = plus
      · subst hplus
        rw [int?_eq_of_splitSign (splitSign_plus bytes)] at h
        obtain ⟨n, hn, rfl⟩ := Option.map_eq_some_iff.mp h
        exact .plus (digits?_eq_some_iff.mp hn)
      · have hsign : splitSign (b :: bytes) = (false, b :: bytes) := by
          rw [splitSign, if_neg hminus, if_neg hplus]
        rw [int?_eq_of_splitSign hsign] at h
        obtain ⟨n, hn, rfl⟩ := Option.map_eq_some_iff.mp h
        exact .plain (digits?_eq_some_iff.mp hn)

theorem int?_eq_some_iff {bytes : Bytes} {i : Int} : int? bytes = some i ↔ Spells bytes i :=
  ⟨spells_of_read, Spells.read⟩

/-- An integer of 64 bits is read exactly from the bytes that spell it. What they spell has the
    range of 64 bits because it is the value of such an integer. -/
theorem int64?_eq_some_iff {bytes : Bytes} {i : Int64} :
    int64? bytes = some i ↔ Spells bytes i.toInt := by
  rw [← int?_eq_some_iff]
  constructor
  · intro h
    rw [int64?] at h
    split at h
    · rename_i j hj
      split at h
      · rename_i hrange
        cases h
        rw [hj, ← Int64.ofIntLE_eq_ofInt hrange.1 hrange.2, Int64.toInt_ofIntLE]
      · cases h
    · cases h
  · intro h
    rw [int64?, h]
    dsimp only
    rw [if_pos ⟨i.minValue_le_toInt, i.toInt_le⟩, Int64.ofInt_toInt]

theorem Spells.forall_isNumeral {bytes : Bytes} {i : Int} (h : Spells bytes i) :
    ∀ b ∈ bytes, b = Decimal.plus ∨ IsNumeral b := by
  intro b hb
  cases h with
  | plain hd => exact Or.inr (hd.forall_isNumeral b hb)
  | plus hd =>
    rcases List.mem_cons.mp hb with rfl | hb
    · exact Or.inl rfl
    · exact Or.inr (hd.forall_isNumeral b hb)
  | minus hd =>
    rcases List.mem_cons.mp hb with rfl | hb
    · exact Or.inr (Or.inl rfl)
    · exact Or.inr (hd.forall_isNumeral b hb)

/-- A spelling is ASCII past the line ends. -/
theorem Spells.toNat_lt {bytes : Bytes} {i : Int} (h : Spells bytes i) {b : UInt8}
    (hb : b ∈ bytes) : 13 < b.toNat ∧ b.toNat < 128 := by
  rcases h.forall_isNumeral b hb with rfl | hn
  · decide
  · exact hn.toNat_lt

end Decimal
end RespLink
