import RespLink.Text.Unprintable

/-!
# Quoted texts — how a message shows a text it was given

A quoted text stands between double quotes. Inside, a quote and a backslash are preceded by a
backslash, the four commonest controls have letters, and whatever cannot be shown is written as
the number of its code point: every other control, and past ASCII what `Text.Unprintable` lists.
A single quote stands for itself, because it ends nothing.
-/

namespace RespLink
namespace Text

/-- The hexadecimal digits of a number, without leading zeros and in small letters. -/
def hexadecimal (n : Nat) : String := String.ofList (Nat.toDigits 16 n)

/-- An unprintable character by its number. -/
def numbered (c : Char) : String := "\\u\x7b" ++ hexadecimal c.toNat ++ "\x7d"

/-- A character as it stands inside quotes. -/
def quotedChar (c : Char) : String :=
  if c = '"' then "\\\""
  else if c = '\\' then "\\\\"
  else if c = '\n' then "\\n"
  else if c = '\r' then "\\r"
  else if c = '\t' then "\\t"
  else if c = '\x00' then "\\0"
  else if c.toNat < 0x20 then numbered c
  else if c.toNat < 0x7F then c.toString
  else if Unprintable.isUnprintable c then numbered c
  else c.toString

/-- The quoted form of a text. -/
def quoted (s : String) : String :=
  "\"" ++ s.toList.foldl (fun shown c => shown ++ quotedChar c) "" ++ "\""

end Text
end RespLink
