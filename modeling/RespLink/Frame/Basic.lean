import RespLink.Text.Quoted
import RespLink.Text.Utf8

/-!
# Replies — what a frame says

A server answers with a tree: lines of text, errors, integers, byte strings, and arrays of all
of these. The protocol has two ways of saying "nothing", a null byte string and a null array,
and neither is the empty one, so both are constructors of their own.

The two views of a reply for a person are here as well: `Reply.text?`, the characters of a leaf,
and `Reply.display`, a whole reply over several lines.
-/

namespace RespLink

/-- A decoded reply. -/
inductive Reply where
  | status (text : String)
  | error (text : String)
  | integer (value : Int64)
  | bulk (data : Bytes)
  | nullBulk
  | array (items : List Reply)
  | nullArray
  deriving Repr, Inhabited

namespace Reply

/-! ## Equality -/

mutual

/-- Two replies are equal or not, by comparing them leaf by leaf. -/
def decEq : (r s : Reply) → Decidable (r = s)
  | .status a, .status b =>
    if h : a = b then .isTrue (h ▸ rfl) else .isFalse fun e => h (Reply.status.inj e)
  | .error a, .error b =>
    if h : a = b then .isTrue (h ▸ rfl) else .isFalse fun e => h (Reply.error.inj e)
  | .integer a, .integer b =>
    if h : a = b then .isTrue (h ▸ rfl) else .isFalse fun e => h (Reply.integer.inj e)
  | .bulk a, .bulk b =>
    if h : a = b then .isTrue (h ▸ rfl) else .isFalse fun e => h (Reply.bulk.inj e)
  | .array a, .array b =>
    match decEqAll a b with
    | .isTrue h => .isTrue (h ▸ rfl)
    | .isFalse h => .isFalse fun e => h (Reply.array.inj e)
  | .nullBulk, .nullBulk => .isTrue rfl
  | .nullArray, .nullArray => .isTrue rfl
  | .status _, .error _ | .status _, .integer _ | .status _, .bulk _ | .status _, .nullBulk
  | .status _, .array _ | .status _, .nullArray | .error _, .status _ | .error _, .integer _
  | .error _, .bulk _ | .error _, .nullBulk | .error _, .array _ | .error _, .nullArray
  | .integer _, .status _ | .integer _, .error _ | .integer _, .bulk _ | .integer _, .nullBulk
  | .integer _, .array _ | .integer _, .nullArray | .bulk _, .status _ | .bulk _, .error _
  | .bulk _, .integer _ | .bulk _, .nullBulk | .bulk _, .array _ | .bulk _, .nullArray
  | .nullBulk, .status _ | .nullBulk, .error _ | .nullBulk, .integer _ | .nullBulk, .bulk _
  | .nullBulk, .array _ | .nullBulk, .nullArray | .array _, .status _ | .array _, .error _
  | .array _, .integer _ | .array _, .bulk _ | .array _, .nullBulk | .array _, .nullArray
  | .nullArray, .status _ | .nullArray, .error _ | .nullArray, .integer _ | .nullArray, .bulk _
  | .nullArray, .nullBulk | .nullArray, .array _ => .isFalse fun e => by cases e

/-- Two lists of replies are equal or not. -/
def decEqAll : (rs ss : List Reply) → Decidable (rs = ss)
  | [], [] => .isTrue rfl
  | [], _ :: _ => .isFalse fun e => by cases e
  | _ :: _, [] => .isFalse fun e => by cases e
  | r :: rs, s :: ss =>
    match decEq r s, decEqAll rs ss with
    | .isTrue h, .isTrue k => .isTrue (h ▸ k ▸ rfl)
    | .isFalse h, _ => .isFalse fun e => h (List.cons.inj e).1
    | _, .isFalse k => .isFalse fun e => k (List.cons.inj e).2

end

instance : DecidableEq Reply := decEq

/-! ## Kinds and views -/

/-- Whether the server reports a failure. -/
def isError : Reply → Bool
  | .error _ => true
  | _ => false

/-- Whether the reply is one of the two nulls. -/
def isNull : Reply → Bool
  | .nullBulk | .nullArray => true
  | _ => false

/-- The decimal text of an integer. -/
def integerText (value : Int64) : String := toString value.toInt

/-- The characters of a reply that is a leaf and not null, reading bytes that are no UTF-8 as
    replacement characters. -/
def text? : Reply → Option String
  | .status s | .error s => some s
  | .integer i => some (integerText i)
  | .bulk data => some (Text.ofBytesLossy data)
  | .nullBulk | .nullArray | .array _ => none

mutual

/-- A reply for a person: text as it is, errors and integers labelled, byte strings quoted, and
    the items of an array numbered, each beginning a line. -/
def display : Reply → String
  | .status s => s
  | .error s => "(error) " ++ s
  | .integer i => "(integer) " ++ integerText i
  | .bulk data => Text.quoted (Text.ofBytesLossy data)
  | .nullBulk | .nullArray => "(nil)"
  | .array [] => "(empty array)"
  | .array (r :: rs) => displayFrom ("1) " ++ display r) 2 rs

/-- The items of an array from number `n` on, after the lines already `shown`. -/
def displayFrom (shown : String) (n : Nat) : List Reply → String
  | [] => shown
  | r :: rs => displayFrom (shown ++ "\n" ++ toString n ++ ") " ++ display r) (n + 1) rs

end

end Reply

end RespLink
