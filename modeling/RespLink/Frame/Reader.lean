import RespLink.Decimal.Numeral
import RespLink.Frame.Basic
import RespLink.Frame.Fault
import RespLink.Frame.Kind

/-!
# Reading frames — a reply off the front of a byte string

A reader takes bytes and answers with a value and with the bytes after it, or with a fault.
Nothing in front of a frame decides how long it is except the frame itself, so a reader is also
what finds its end.

Arrays nest, and a peer may nest them without end in four bytes a level. `Reply.readWithin` is
therefore defined by recursion on the *room*, the number of levels that are still permitted:
without any, the kind `*` is a fault before its length is even looked at.
-/

namespace RespLink

namespace Frame

/-- The deepest nesting of arrays that is read. -/
def maxDepth : Nat := 128

/-- Reads a value off the front of a byte string: the value and what follows, or a fault. -/
abbrev Reader (α : Type) := Bytes → Except FrameFault (α × Bytes)

/-- The bytes before the first line end, after those already passed (in reverse), and what
    follows the line end. -/
def splitLine (passed : Bytes) : Bytes → Option (Bytes × Bytes)
  | a :: b :: rest =>
    if a = Bytes.cr ∧ b = Bytes.lf then some (passed.reverse, rest)
    else splitLine (a :: passed) (b :: rest)
  | [_] | [] => none

/-- A line without its end. -/
def readLine : Reader Bytes := fun bytes =>
  match splitLine [] bytes with
  | some found => .ok found
  | none => .error .incomplete

/-- A line of text. -/
def readText : Reader String := fun bytes => do
  let (line, rest) ← readLine bytes
  match Text.ofBytes? line with
  | some s => .ok (s, rest)
  | none => .error (.notUtf8 (Text.fault line))

/-- A line that holds an integer. -/
def readInteger : Reader Int64 := fun bytes => do
  let (line, rest) ← readText bytes
  match Decimal.int64? (Text.toBytes line) with
  | some i => .ok (i, rest)
  | none => .error (.badInteger line)

/-- A line that holds a length, or the -1 that stands for null. -/
def readLength : Reader (Option Nat) := fun bytes => do
  let (i, rest) ← readInteger bytes
  if i = -1 then .ok (none, rest)
  else if i < 0 then .error (.badLength i)
  else .ok (some i.toInt.toNat, rest)

/-- The byte string of a given length, and the line end after it. -/
def readExact (length : Nat) : Reader Bytes := fun bytes =>
  match bytes.drop length with
  | a :: b :: rest =>
    if a = Bytes.cr ∧ b = Bytes.lf then .ok (bytes.take length, rest) else .error .unterminated
  | [_] | [] => .error .incomplete

/-- A byte string after its kind. -/
def readBulk : Reader Reply := fun bytes => do
  match ← readLength bytes with
  | (none, rest) => .ok (.nullBulk, rest)
  | (some length, rest) =>
    let (data, rest) ← readExact length rest
    .ok (.bulk data, rest)

/-- As many items as are counted, after those already read (in reverse). The count is whatever
    the peer announced; reading stops at the first item that is not there. -/
def readItems (item : Reader Reply) : (count : Nat) → (done : List Reply) → Reader (List Reply)
  | 0, done, bytes => .ok (done.reverse, bytes)
  | count + 1, done, bytes =>
    match item bytes with
    | .ok (r, rest) => readItems item count (r :: done) rest
    | .error fault => .error fault

/-- An array after its kind, whose items are read by `item`. -/
def readArray (item : Reader Reply) : Reader Reply := fun bytes => do
  match ← readLength bytes with
  | (none, rest) => .ok (.nullArray, rest)
  | (some count, rest) =>
    let (items, rest) ← readItems item count [] rest
    .ok (.array items, rest)

/-- A frame, whose arrays are read by `array` from behind their kind. -/
def readFrame (array : Reader Reply) : Reader Reply
  | [] => .error .incomplete
  | first :: bytes =>
    match Kind.ofByte? first with
    | none => .error (.unknownKind first)
    | some .status => (readText bytes).map fun (s, rest) => (.status s, rest)
    | some .error => (readText bytes).map fun (s, rest) => (.error s, rest)
    | some .integer => (readInteger bytes).map fun (i, rest) => (.integer i, rest)
    | some .bulk => readBulk bytes
    | some .array => array bytes

end Frame

namespace Reply

/-- A frame with room for so many levels of arrays. -/
def readWithin : (room : Nat) → Frame.Reader Reply
  | 0 => Frame.readFrame fun _ => .error (.tooDeep Frame.maxDepth)
  | room + 1 => Frame.readFrame (Frame.readArray (readWithin room))

/-- The reply at the front of a byte string, and what follows its frame. -/
def read : Frame.Reader Reply := readWithin Frame.maxDepth

end Reply

end RespLink
