import RespLink.Text.Quoted
import RespLink.Text.Utf8

/-!
# Frame faults — why bytes are no frame

All but one of these are final: whatever arrives afterwards, the bytes will not become a frame.
The exception is `incomplete`, which says only that the end has not arrived yet.
-/

namespace RespLink

/-- Why no frame could be read off the front of a byte string. -/
inductive FrameFault where
  /-- The bytes so far may be the beginning of a frame. -/
  | incomplete
  /-- The first byte of a frame announces no kind. -/
  | unknownKind (byte : UInt8)
  /-- A length is negative and not the -1 that stands for null. -/
  | badLength (length : Int64)
  /-- A line that should hold an integer of 64 bits holds something else. -/
  | badInteger (line : String)
  /-- The bytes after a byte string are no line end. -/
  | unterminated
  /-- More than the permitted number of bytes are buffered for one unfinished frame. -/
  | tooLarge (limit : Nat)
  /-- An array stands inside as many others as are permitted. -/
  | tooDeep (limit : Nat)
  /-- A line is no UTF-8. -/
  | notUtf8 (fault : Text.Fault)
  deriving DecidableEq, Repr, Inhabited

namespace FrameFault

/-- A byte in hexadecimal, in two digits. -/
def hexByte (b : UInt8) : String :=
  "0x" ++ (if b < 16 then "0" else "") ++ Text.hexadecimal b.toNat

/-- The wording of a fault. -/
def message : FrameFault → String
  | .incomplete => "not enough data is available to parse an entire frame"
  | .unknownKind b => "invalid frame data type: " ++ hexByte b
  | .badLength n => "invalid length " ++ toString n.toInt
  | .badInteger line => "invalid integer " ++ Text.quoted line
  | .unterminated => "bulk string is not terminated by CRLF"
  | .tooLarge limit => "frame exceeds the limit of " ++ toString limit ++ " bytes"
  | .tooDeep limit => "arrays nested deeper than " ++ toString limit ++ " levels"
  | .notUtf8 _ => "invalid UTF-8 in a line frame"

/-- A fault with all it carries, as a failed program reports it. -/
def report : FrameFault → String
  | .incomplete => "Incomplete"
  | .unknownKind b => "InvalidDataType(" ++ toString b.toNat ++ ")"
  | .badLength n => "InvalidLength(" ++ toString n.toInt ++ ")"
  | .badInteger line => "InvalidInteger(" ++ Text.quoted line ++ ")"
  | .unterminated => "MissingTerminator"
  | .tooLarge limit => "FrameTooLarge(" ++ toString limit ++ ")"
  | .tooDeep limit => "TooDeep(" ++ toString limit ++ ")"
  | .notUtf8 fault =>
    let width := match fault.width with
      | some n => "Some(" ++ toString n ++ ")"
      | none => "None"
    "InvalidUtf8(Utf8Error \x7b valid_up_to: " ++ toString fault.offset ++ ", error_len: " ++ width
      ++ " \x7d)"

end FrameFault

end RespLink
