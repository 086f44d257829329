import RespLink.Decimal.Numeral
import RespLink.Frame.Basic
import RespLink.Frame.Kind

/-!
# Writing frames — the canonical spelling of a reply

Each reply has one canonical spelling: numbers in plain decimal, a byte string after its length,
the items of an array after their number. `Reply.frame` writes it. It is total, also where what
it writes is no frame any more, because a status text with a line end in it would end early.
-/

namespace RespLink

/-- A line: a kind, what the line holds, and its end. -/
def Kind.line (kind : Kind) (content : Bytes) : Bytes := kind.byte :: content ++ Bytes.crlf

/-- A byte string with its length before it and a line end after it. -/
def bulkFrame (data : Bytes) : Bytes :=
  Kind.bulk.line (Decimal.ofNat data.length) ++ data ++ Bytes.crlf

/-- The line before the items of an array. -/
def arrayHeader (count : Nat) : Bytes := Kind.array.line (Decimal.ofNat count)

namespace Reply

mutual

/-- The canonical spelling of a reply. -/
def frame : Reply → Bytes
  | .status s => Kind.status.line (Text.toBytes s)
  | .error s => Kind.error.line (Text.toBytes s)
  | .integer i => Kind.integer.line (Decimal.ofInt i.toInt)
  | .bulk data => bulkFrame data
  | .nullBulk => Kind.bulk.line (Decimal.ofInt (-1))
  | .array items => arrayHeader items.length ++ framesOnto [] items
  | .nullArray => Kind.array.line (Decimal.ofInt (-1))

/-- The spellings of replies, one after the other, behind those already written (in reverse). -/
def framesOnto (written : List Bytes) : List Reply → Bytes
  | [] => written.reverse.flatten
  | r :: rs => framesOnto (frame r :: written) rs

end

theorem framesOnto_eq (rs : List Reply) (written : List Bytes) :
    framesOnto written rs = written.reverse.flatten ++ (rs.map frame).flatten := by
  induction rs generalizing written with
  | nil => simp [framesOnto]
  | cons r rs ih => simp [framesOnto, ih]

theorem frame_array (items : List Reply) :
    frame (.array items) = arrayHeader items.length ++ (items.map frame).flatten := by
  simp [frame, framesOnto_eq]

end Reply

end RespLink
