import RespLink.Decimal.Numeral
import RespLink.Decimal.Shortest

/-!
# Binary floating point — 64 bits as text and back

A floating-point number is kept as its 64 bits, so that two of them are equal exactly when they
are the same word, and so that reading and writing are arithmetic on natural numbers and can be
reasoned about. Reading rounds to the nearest number, ties to the even significand; writing gives
the fewest digits that read back, in positional notation however long that is, because the server
takes no exponent for granted and spells the infinities `inf` and `-inf`.
-/

namespace RespLink

/-- A floating-point number of 64 bits: a sign, eleven bits of exponent, 52 of fraction. -/
structure Binary64 where
  bits : UInt64
  deriving DecidableEq, Repr, Inhabited

namespace Binary64

/-! ## Fields -/

def negative (x : Binary64) : Bool := 1 <<< 63 ≤ x.bits.toNat

def exponentField (x : Binary64) : Nat := (x.bits.toNat >>> 52) % (1 <<< 11)

def fractionField (x : Binary64) : Nat := x.bits.toNat % (1 <<< 52)

def isNaN (x : Binary64) : Bool := x.exponentField = 2047 && x.fractionField ≠ 0

def isInfinite (x : Binary64) : Bool := x.exponentField = 2047 && x.fractionField = 0

/-- The significand of a finite number as a whole number; its value is
    `significand · 2 ^ scale`. -/
def significand (x : Binary64) : Nat :=
  if x.exponentField = 0 then x.fractionField else 1 <<< 52 + x.fractionField

/-- The power of two that goes with `significand`. -/
def scale (x : Binary64) : Int := (max x.exponentField 1 : Nat) - 1075

/-- The reals that round to a finite number, without its sign. -/
def rounding (x : Binary64) : Decimal.Rounding :=
  Decimal.Rounding.ofBinary x.significand x.scale
    (x.fractionField = 0 && 1 < x.exponentField)

/-! ## Composing -/

/-- The number with this sign and the other 63 bits. -/
def ofMagnitude (negative : Bool) (magnitude : Nat) : Binary64 :=
  ⟨((if negative then 1 <<< 63 else 0) + magnitude).toUInt64⟩

/-- The bits of infinity, without a sign. -/
def infinityBits : Nat := 2047 <<< 52

/-- A number that is none. -/
def nan : Binary64 := ofMagnitude false (infinityBits + 1 <<< 51)

/-- The quotient of two naturals to the nearest whole number, ties to the even one. -/
def roundQuotient (a b : Nat) : Nat :=
  let q := a / b
  let r := a % b
  if 2 * r < b then q
  else if b < 2 * r then q + 1
  else q + q % 2

/-- The scale at which `a / b` has a significand of 53 bits, or the least scale there is. -/
def scaleOf (a b : Nat) : Int :=
  let scale : Int := (Nat.log2 a : Int) - Nat.log2 b - 53
  let scale := if b <<< scale.toNat <<< 53 ≤ a <<< (-scale).toNat then scale + 1 else scale
  max scale (-1074)

/-- The bits, without a sign, of the number nearest to `a / b`. A significand that rounds up to
    the next power of two carries into the exponent by itself. -/
def magnitudeOf (a b : Nat) : Nat :=
  if a = 0 then 0
  else
    let scale := scaleOf a b
    let m := roundQuotient (a <<< (-scale).toNat) (b <<< scale.toNat)
    let magnitude := if m < 1 <<< 52 then m else (scale + 1074).toNat <<< 52 + m
    min magnitude infinityBits

/-- The number nearest to `a / b`, with a sign. -/
def ofRatio (negative : Bool) (a b : Nat) : Binary64 := ofMagnitude negative (magnitudeOf a b)

/-- The number nearest to `digits · 10 ^ exponent`, with a sign; the last digit first. Decimals
    past every number, or nearer to zero than half the least one, are settled by the place of
    their first digit, so that an absurd exponent costs nothing. -/
def ofDecimal (negative : Bool) (digits : List Nat) (exponent : Int) : Binary64 :=
  let significant := digits.reverse.dropWhile (· = 0)
  let place : Int := significant.length + exponent
  if significant.isEmpty then ofMagnitude negative 0
  else if 310 < place then ofMagnitude negative infinityBits
  else if place < -330 then ofMagnitude negative 0
  else ofRatio negative (Decimal.ofDigits digits * Nat.pow 10 exponent.toNat)
    (Nat.pow 10 (-exponent).toNat)

/-- The number nearest to an integer. -/
def ofInt (i : Int) : Binary64 := ofRatio (i < 0) i.natAbs 1

/-- The same number as one of 32 bits, which always has one of 64. -/
def ofBinary32 (bits : UInt32) : Binary64 :=
  let n := bits.toNat
  let negative : Bool := 1 <<< 31 ≤ n
  let exponent := (n >>> 23) % (1 <<< 8)
  let fraction := n % (1 <<< 23)
  if exponent = 255 then
    if fraction = 0 then ofMagnitude negative infinityBits else nan
  else
    let m := if exponent = 0 then fraction else 1 <<< 23 + fraction
    ofRatio negative (m <<< max exponent 1) (1 <<< 150)

/-! ## Writing -/

/-- The text of a number. -/
def text (x : Binary64) : String :=
  if x.isNaN then "NaN"
  else
    let sign := if x.negative then "-" else ""
    if x.isInfinite then sign ++ "inf"
    else if x.significand = 0 then sign ++ "0"
    else
      let (point, exponent) := Decimal.shortest x.rounding
      sign ++ String.ofList (Decimal.positional point exponent)

/-! ## Reading -/

/-- The digits at the front, after those that are done, and the rest; the last digit first. -/
def readDigits (done : List Nat) : Bytes → List Nat × Bytes
  | [] => (done, [])
  | b :: rest =>
    match Decimal.digit? b with
    | some d => readDigits (d :: done) rest
    | none => (done, b :: rest)

/-- The size of an exponent, of which `size` is read, when every byte of a list is a further digit.
    From 65536 on further digits are read and no longer counted: only a numeral with as many
    digits could tell the difference. -/
def exponentSize? (size : Nat) : Bytes → Option Nat
  | [] => some size
  | b :: rest =>
    match Decimal.digit? b with
    | some d => exponentSize? (if size < 1 <<< 16 then 10 * size + d else size) rest
    | none => none

/-- An exponent after its mark: at most one sign and one or more digits. No mark, no exponent. -/
def exponent? : Bytes → Option Int
  | [] => some 0
  | mark :: rest =>
    if mark = Bytes.ascii 'e' ∨ mark = Bytes.ascii 'E' then
      let (negative, size) := Decimal.splitSign rest
      if size.isEmpty then none
      else (exponentSize? 0 size).map fun n => if negative then -(n : Int) else (n : Int)
    else none

/-- Digits with a point among them or at one end, then perhaps an exponent. One digit at least
    stands on one side of the point. -/
def unsigned? (negative : Bool) (bytes : Bytes) : Option Binary64 :=
  let (whole, rest) := readDigits [] bytes
  let (digits, rest) :=
    match rest with
    | b :: rest' => if b = Bytes.ascii '.' then readDigits whole rest' else (whole, rest)
    | [] => (whole, [])
  let after : Int := digits.length - whole.length
  if digits.isEmpty then none
  else (exponent? rest).map fun e => ofDecimal negative digits (e - after)

/-- An ASCII letter as its small form; any other byte as it is. -/
def small (b : UInt8) : UInt8 := if 65 ≤ b ∧ b ≤ 90 then b + 32 else b

/-- The number that a text spells: an infinity or `nan` in letters of either case, or a decimal,
    after at most one sign. -/
def ofText? (bytes : Bytes) : Option Binary64 :=
  let (negative, rest) := Decimal.splitSign bytes
  let word := rest.map small
  if word = "inf".toList.map Bytes.ascii ∨ word = "infinity".toList.map Bytes.ascii then
    some (ofMagnitude negative infinityBits)
  else if word = "nan".toList.map Bytes.ascii then some nan
  else unsigned? negative rest

end Binary64
end RespLink
