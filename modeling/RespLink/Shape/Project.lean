import RespLink.Error
import RespLink.Shape.Basic

/-!
# Projections — reading a reply as a shape

Each shape takes some kinds of reply and refuses the others. Whatever the shape, an error reply
is not a value: it becomes the failure that the server reported. Only inside `Shape.replies` do
errors stay where they are, because there they belong to single commands of a transaction.

The scalars are read from text as well as from integers, since a server stores everything as
bytes: `5` and `:5` are the same number to a caller. What spells a number is decided by
`Decimal` and `Binary64`.
-/

namespace RespLink

namespace Shape

/-- The failure of a reply that is of no use: what the server reported, or that another kind was
    expected. -/
def reject (expected : Expected) : Reply → Error
  | .error message => .server message
  | r => .unexpectedReply expected r.found

/-- The value of a reading that may have failed, or the failure of a reply of the wrong kind. -/
def orReject {α : Type} (expected : Expected) (r : Reply) : Option α → Except Error α
  | some value => .ok value
  | none => .error (reject expected r)

/-- The fields and values of a flat array, bound one after the other, field first. -/
def projectPairs {κ ν : Type} [DecidableEq κ] (key : Reply → Except Error κ)
    (value : Reply → Except Error ν) : (bound : Bindings κ ν) → List Reply →
      Except Error (Bindings κ ν)
  | bound, field :: content :: rest =>
    match key field with
    | .error e => .error e
    | .ok k =>
      match value content with
      | .error e => .error e
      | .ok v => projectPairs key value (bound.insert k v) rest
  | bound, _ => .ok bound

/-- The items of an array, each read on its own, up to the first that fails; after those already
    read (in reverse). -/
def projectItems {α : Type} (item : Reply → Except Error α) : (done : List α) → List Reply →
    Except Error (List α)
  | done, [] => .ok done.reverse
  | done, r :: rs =>
    match item r with
    | .error e => .error e
    | .ok value => projectItems item (value :: done) rs

/-- Reads a reply as a shape. -/
def project : (s : Shape) → Reply → Except Error s.Value
  | .reply, r => match r with
    | .error message => .error (.server message)
    | r => .ok r
  | .unit, r => match r with
    | .error message => .error (.server message)
    | _ => .ok ()
  | .text, r => match r with
    | .status s => .ok s
    | .bulk data => match Text.ofBytes? data with
      | some s => .ok s
      | none => .error (.unexpectedReply .utf8Text .binaryBulk)
    | .integer i => .ok (Reply.integerText i)
    | r => .error (reject .text r)
  | .bytes, r => match r with
    | .bulk data => .ok data
    | .status s => .ok (Text.toBytes s)
    | r => .error (reject .bulk r)
  | .integer, r => match r with
    | .integer i => .ok i
    | .bulk data => orReject .integer r (Decimal.int64? data)
    | .status s => orReject .integer r (Decimal.int64? (Text.toBytes s))
    | r => .error (reject .integer r)
  | .unsigned, r => match r with
    | .integer i =>
      if 0 ≤ i then .ok i.toInt.toNat.toUInt64 else .error (reject .unsignedInteger r)
    | .bulk data =>
      orReject .unsignedInteger r ((Decimal.unsigned? 64 data).map Nat.toUInt64)
    | r => .error (reject .unsignedInteger r)
  | .float, r => match r with
    | .integer i => .ok (Binary64.ofInt i.toInt)
    | .bulk data => orReject .float r (Binary64.ofText? data)
    | r => .error (reject .float r)
  | .flag, r => match r with
    | .integer i => .ok (i ≠ 0)
    | .status s => if s = "OK" then .ok true else .error (reject .integerOrOk r)
    | .nullBulk => .ok false
    | r => .error (reject .integerOrOk r)
  | .replies, r => match r with
    | .array items => .ok items
    | r => .error (reject .array r)
  | .optional item, r => match r with
    | .nullBulk | .nullArray => .ok none
    | r => (project item r).map some
  | .list item, r => match r with
    | .array items => projectItems (project item) [] items
    | r => .error (reject .array r)
  | .map key value, r => match r with
    | .array items =>
      if items.length % 2 = 0 then
        projectPairs (project key) (project value) Bindings.empty items
      else .error (reject .fieldValuePairs r)
    | r => .error (reject .fieldValuePairs r)
  | .pair first second, r => match r with
    | .array [a, b] =>
      match project first a with
      | .error e => .error e
      | .ok x =>
        match project second b with
        | .error e => .error e
        | .ok y => .ok (x, y)
    | r => .error (reject .twoElements r)

end Shape

end RespLink
