/-!
# Spans of time — and how a message shows one

A span is a number of whole seconds and of nanoseconds beyond them. It is shown in the largest
unit that is not zero, with as many decimal places as it needs and no more: `1.5s`, `20ms`,
`1.5µs`, `100ns`, and `0ns` for nothing.
-/

namespace RespLink

/-- A length of time, exact to the nanosecond. -/
structure Span where
  seconds : Nat
  nanoseconds : Nat
  deriving DecidableEq, Repr, Inhabited

namespace Span

/-- A span of so many milliseconds. -/
def ofMilliseconds (ms : Nat) : Span := ⟨ms / 1000, ms % 1000 * 1000000⟩

/-- A span of so many seconds and nanoseconds, where a thousand million of the latter are one of
    the former. -/
def ofParts (seconds nanoseconds : Nat) : Span :=
  ⟨seconds + nanoseconds / 1000000000, nanoseconds % 1000000000⟩

/-- The whole milliseconds of a span. -/
def milliseconds (s : Span) : Nat := s.seconds * 1000 + s.nanoseconds / 1000000

/-- The digits of `n` in `places` places, without the zeros at their end. -/
def fraction : (places : Nat) → (n : Nat) → List Char
  | 0, _ => []
  | places + 1, n =>
    if n = 0 then []
    else Nat.digitChar (n / Nat.pow 10 places % 10) :: fraction places (n % Nat.pow 10 places)

/-- A whole number of units and a fraction of one, in `places` places. -/
def shown (whole : Nat) (places part : Nat) (unit : String) : String :=
  toString whole ++ (if part = 0 then "" else "." ++ String.ofList (fraction places part)) ++ unit

/-- The text of a span. -/
def text (s : Span) : String :=
  let n := s.nanoseconds
  if 0 < s.seconds then shown s.seconds 9 n "s"
  else if 1000000 ≤ n then shown (n / 1000000) 6 (n % 1000000) "ms"
  else if 1000 ≤ n then shown (n / 1000) 3 (n % 1000) "µs"
  else shown n 0 0 "ns"

end Span

end RespLink
