import RespLink.Bytes

/-!
# Numerals — whole numbers in decimal

Lengths and integers cross the wire as ASCII digits. `Decimal.ofNat` and `Decimal.ofInt` write
the one canonical spelling. Reading is more liberal: leading zeros are accepted, and where a
sign may stand, so is a plus. A number is read whole or not at all, and the readers for a range
refuse what lies outside it instead of wrapping. `Decimal.ofDigits` is for numerals of any length.
-/

namespace RespLink
namespace Decimal

/-! ## Writing -/

/-- The ASCII digit of a number below ten. -/
def digit (d : Nat) : UInt8 := (48 + d).toUInt8

/-- The digits of `n` in front of `rest`; `fuel` bounds their number. -/
def digitsOnto : (fuel n : Nat) → (rest : Bytes) → Bytes
  | 0, _, rest => rest
  | fuel + 1, n, rest =>
    if n < 10 then digit n :: rest else digitsOnto fuel (n / 10) (digit (n % 10) :: rest)

/-- The digits of `n`, without leading zeros. A number has no more digits than units, so it is
    fuel enough for itself. -/
def ofNat (n : Nat) : Bytes := digitsOnto (n + 1) n []

/-- The minus sign. -/
def minus : UInt8 := 45

/-- The plus sign. -/
def plus : UInt8 := 43

/-- The canonical spelling of `i`: its digits, after a minus if it is negative. -/
def ofInt (i : Int) : Bytes := if i < 0 then minus :: ofNat i.natAbs else ofNat i.natAbs

/-! ## Reading -/

/-- The value of an ASCII digit. -/
def digit? (b : UInt8) : Option Nat :=
  if 48 ≤ b ∧ b ≤ 57 then some (b.toNat - 48) else none

/-- The number that `value` becomes when every byte of a list is a further digit. -/
def continue? (value : Nat) : Bytes → Option Nat
  | [] => some value
  | b :: rest =>
    match digit? b with
    | some d => continue? (10 * value + d) rest
    | none => none

/-- One or more digits. -/
def digits? : Bytes → Option Nat
  | [] => none
  | bytes => continue? 0 bytes

/-- Neighbours as one digit each in the squared base; least digit first, and what is done in
    reverse. -/
def pairDigits (base : Nat) (done : List Nat) : List Nat → List Nat
  | low :: high :: rest => pairDigits base ((low + base * high) :: done) rest
  | rest => done.reverse ++ rest

/-- The number with these digits, least digit first. Each round halves how many there are, so that
    a numeral of a million digits is read in few multiplications of long numbers; however many
    rounds there are, the number is the same. -/
def joinDigits : (rounds base : Nat) → List Nat → Nat
  | 0, base, ds => ds.foldr (fun d value => d + base * value) 0
  | rounds + 1, base, ds => joinDigits rounds (base * base) (pairDigits base [] ds)

/-- The number whose decimal digits these are, the last digit first. -/
def ofDigits (ds : List Nat) : Nat := joinDigits (Nat.log2 ds.length + 1) 10 ds

/-- A sign, if there is one: whether it is a minus, and what follows. -/
def splitSign : Bytes → Bool × Bytes
  | [] => (false, [])
  | b :: rest =>
    if b = minus then (true, rest) else if b = plus then (false, rest) else (false, b :: rest)

/-- One or more digits after at most one sign. -/
def int? (bytes : Bytes) : Option Int :=
  let (negative, rest) := splitSign bytes
  (digits? rest).map fun n => if negative then -(n : Int) else (n : Int)

/-- An integer of 64 bits. -/
def int64? (bytes : Bytes) : Option Int64 :=
  match int? bytes with
  | some i =>
    if Int64.minValue.toInt ≤ i ∧ i ≤ Int64.maxValue.toInt then some (Int64.ofInt i) else none
  | none => none

/-- A number of at most `bits` bits: one or more digits, after a plus or nothing. A minus is
    refused even before zero. -/
def unsigned? (bits : Nat) (bytes : Bytes) : Option Nat :=
  let (negative, rest) := splitSign bytes
  if negative then none
  else
    match digits? rest with
    | some n => if n < 1 <<< bits then some n else none
    | none => none

end Decimal
end RespLink
