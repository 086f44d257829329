import RespLink.Proofs.Decimal.Spelling

/-!
# Canonical spellings — the shortest of all

Of all the spellings that are read as one number, the one that is written is the shortest, and the
only one of its length. The others are it with zeros before its digits or with a sign that says
nothing, and by that they are recognised without reading them (`Plain`).
-/

namespace RespLink
namespace Decimal

/-- A numeral without anything superfluous: no plus, no zero before another digit, and no zero
    after a minus. -/
structure Plain (line : Bytes) : Prop where
  noPlus : ¬ [plus] <+: line
  noLeadingZero : [digit 0] <+: line → line = [digit 0]
  noNegatedZero : ¬ [minus, digit 0] <+: line

instance (line : Bytes) : Decidable (Plain line) :=
  decidable_of_iff
    (¬ [plus] <+: line ∧ ([digit 0] <+: line → line = [digit 0]) ∧ ¬ [minus, digit 0] <+: line)
    ⟨fun h => ⟨h.1, h.2.1, h.2.2⟩, fun h => ⟨h.noPlus, h.noLeadingZero, h.noNegatedZero⟩⟩

/-! ## Digits -/

theorem digitsOnto_eq_append (fuel n : Nat) (rest : Bytes) :
    digitsOnto fuel n rest = digitsOnto fuel n [] ++ rest := by
  induction fuel generalizing n rest with
  | zero => rfl
  | succ fuel ih =>
    rw [digitsOnto, digitsOnto]
    split
    · rfl
    · rw [ih, ih _ [_]]
      simp

/-- Fuel above a number does not show in its digits. -/
theorem digitsOnto_eq_ofNat {fuel n : Nat} (h : n < fuel) : digitsOnto fuel n [] = ofNat n := by
  induction n using Nat.strongRecOn generalizing fuel with
  | ind n ih =>
    obtain ⟨fuel, rfl⟩ : ∃ m, fuel = m + 1 := ⟨fuel - 1, by omega⟩
    rw [ofNat, digitsOnto, digitsOnto]
    split
    · rfl
    · have hless : n / 10 < n := by omega
      rw [digitsOnto_eq_append, digitsOnto_eq_append n, ih _ hless (by omega), ih _ hless hless]

theorem ofNat_of_lt {n : Nat} (h : n < 10) : ofNat n = [digit n] := by
  rw [ofNat, digitsOnto, if_pos h]

theorem ofNat_of_le {n : Nat} (h : 10 ≤ n) : ofNat n = ofNat (n / 10) ++ [digit (n % 10)] := by
  rw [ofNat, digitsOnto, if_neg (by omega), digitsOnto_eq_append, digitsOnto_eq_ofNat (by omega)]

theorem digit_ne_zero {d : Nat} (hpos : 0 < d) (h : d < 10) : digit d ≠ digit 0 := by
  intro heq
  have hd := digit?_digit h
  rw [heq, digit?_digit (by decide)] at hd
  cases hd
  exact absurd hpos (by decide)

/-- A number that is not zero is not written with a zero in front. -/
theorem exists_digit_ofNat_of_pos {n : Nat} (hpos : 0 < n) :
    ∃ d tail, 0 < d ∧ d < 10 ∧ ofNat n = digit d :: tail := by
  induction n using Nat.strongRecOn with
  | ind n ih =>
    by_cases h : n < 10
    · exact ⟨n, [], hpos, h, ofNat_of_lt h⟩
    · obtain ⟨d, tail, hd, hten, htail⟩ := ih (n / 10) (by omega) (by omega)
      exact ⟨d, tail ++ [digit (n % 10)], hd, hten, by rw [ofNat_of_le (by omega), htail]; rfl⟩

/-- Digits are the canonical ones of their number after some zeros. -/
theorem Digits.exists_zeros {bytes : Bytes} {n : Nat} (h : Digits bytes n) :
    ∃ zeros, bytes = List.replicate zeros (digit 0) ++ ofNat n := by
  induction h with
  | one hd => exact ⟨0, by simp [ofNat_of_lt hd]⟩
  | @more bytes n d _ hd ih =>
    obtain ⟨zeros, rfl⟩ := ih
    by_cases hn : n = 0
    · subst hn
      refine ⟨zeros + 1, ?_⟩
      rw [ofNat_of_lt (by decide), Nat.mul_zero, Nat.zero_add, ofNat_of_lt hd,
        List.replicate_succ']
    · refine ⟨zeros, ?_⟩
      have hdiv : (10 * n + d) / 10 = n := by omega
      have hmod : (10 * n + d) % 10 = d := by omega
      have hlast : ofNat (10 * n + d) = ofNat n ++ [digit d] := by
        rw [ofNat_of_le (by omega), hdiv, hmod]
      rw [hlast, List.append_assoc]

theorem Digits.length_le {bytes : Bytes} {n : Nat} (h : Digits bytes n) :
    (ofNat n).length ≤ bytes.length := by
  obtain ⟨zeros, rfl⟩ := h.exists_zeros
  simp

theorem Digits.eq_of_length {bytes : Bytes} {n : Nat} (h : Digits bytes n)
    (hlen : (ofNat n).length = bytes.length) : ofNat n = bytes := by
  obtain ⟨zeros, rfl⟩ := h.exists_zeros
  have hzeros : zeros = 0 := by
    rw [List.length_append, List.length_replicate] at hlen
    omega
  simp [hzeros]

/-- Digits that do not begin with a zero before another digit are the canonical ones. -/
theorem Digits.eq_of_noLeadingZero {bytes : Bytes} {n : Nat} (h : Digits bytes n)
    (hplain : [digit 0] <+: bytes → bytes = [digit 0]) : ofNat n = bytes := by
  obtain ⟨zeros, rfl⟩ := h.exists_zeros
  cases zeros with
  | zero => rfl
  | succ zeros =>
    obtain ⟨d, tail, -, hd⟩ := exists_digit_ofNat n
    have halone := hplain ⟨List.replicate zeros (digit 0) ++ ofNat n, rfl⟩
    exact absurd (congrArg List.length halone) (by simp [hd]; omega)

/-! ## Signs -/

theorem spells_ofInt (i : Int) : Spells (ofInt i) i := int?_eq_some_iff.mp (int?_ofInt i)

theorem ofInt_neg {n : Nat} (hpos : 0 < n) : ofInt (-n) = minus :: ofNat n := by
  rw [ofInt, if_pos (by omega), Int.natAbs_neg, Int.natAbs_natCast]

theorem Spells.length_le {line : Bytes} {i : Int} (h : Spells line i) :
    (ofInt i).length ≤ line.length := by
  cases h with
  | plain hd =>
    rw [ofInt_natCast]
    exact hd.length_le
  | plus hd =>
    rw [ofInt_natCast]
    exact Nat.le_succ_of_le hd.length_le
  | @minus bytes n hd =>
    by_cases hn : n = 0
    · subst hn
      exact Nat.succ_le_succ (Nat.zero_le bytes.length)
    · rw [ofInt_neg (by omega)]
      exact Nat.succ_le_succ hd.length_le

/-- A spelling as short as the canonical one is that one. -/
theorem Spells.eq_of_length {line : Bytes} {i : Int} (h : Spells line i)
    (hlen : (ofInt i).length = line.length) : ofInt i = line := by
  cases h with
  | plain hd =>
    rw [ofInt_natCast] at hlen ⊢
    exact hd.eq_of_length hlen
  | plus hd =>
    rw [ofInt_natCast, List.length_cons] at hlen
    exact absurd hd.length_le (by omega)
  | @minus bytes n hd =>
    by_cases hn : n = 0
    · subst hn
      have hlen : 1 = bytes.length + 1 := hlen
      have hpos := List.length_pos_iff.mpr hd.ne_nil
      omega
    · rw [ofInt_neg (by omega), List.length_cons, List.length_cons] at hlen
      rw [ofInt_neg (by omega), hd.eq_of_length (by omega)]

theorem Spells.eq_of_plain {line : Bytes} {i : Int} (h : Spells line i) (hplain : Plain line) :
    ofInt i = line := by
  cases h with
  | plain hd =>
    rw [ofInt_natCast]
    exact hd.eq_of_noLeadingZero hplain.noLeadingZero
  | plus hd => exact absurd (List.prefix_append [Decimal.plus] _) hplain.noPlus
  | @minus bytes n hd =>
    have hzero : ¬ [digit 0] <+: bytes := by
      rintro ⟨tail, rfl⟩
      exact hplain.noNegatedZero ⟨tail, rfl⟩
    have hbytes := hd.eq_of_noLeadingZero fun h => absurd h hzero
    by_cases hn : n = 0
    · subst hn
      rw [ofNat_of_lt (by decide)] at hbytes
      exact absurd ⟨[], by rw [← hbytes]; rfl⟩ hzero
    · rw [ofInt_neg (by omega), hbytes]

theorem plain_ofNat (n : Nat) : Plain (ofNat n) := by
  by_cases hn : n = 0
  · subst hn
    decide
  · obtain ⟨d, tail, hpos, hd, htail⟩ := exists_digit_ofNat_of_pos (Nat.pos_of_ne_zero hn)
    have hsome := digit?_digit hd
    rw [htail]
    refine ⟨fun h => ?_, fun h => ?_, fun h => ?_⟩
    · rw [← (List.cons_prefix_cons.mp h).1] at hsome
      cases hsome
    · exact absurd (List.cons_prefix_cons.mp h).1.symm (digit_ne_zero hpos hd)
    · rw [← (List.cons_prefix_cons.mp h).1] at hsome
      cases hsome

theorem plain_ofInt (i : Int) : Plain (ofInt i) := by
  rw [ofInt]
  split
  · rename_i hneg
    obtain ⟨d, tail, hpos, hd, htail⟩ := exists_digit_ofNat_of_pos (n := i.natAbs) (by omega)
    rw [htail]
    refine ⟨fun h => ?_, fun h => ?_, fun h => ?_⟩
    · exact absurd (List.cons_prefix_cons.mp h).1 (by decide)
    · exact absurd (List.cons_prefix_cons.mp h).1 (by decide)
    · have hzero := (List.cons_prefix_cons.mp h).2
      exact digit_ne_zero hpos hd (List.cons_prefix_cons.mp hzero).1.symm
  · exact plain_ofNat _

end Decimal
end RespLink
