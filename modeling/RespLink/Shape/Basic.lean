import RespLink.Decimal.Binary64
import RespLink.Frame.Basic
import RespLink.Shape.Bindings

/-!
# Shapes — what a reply is to be read as

A caller knows what it asked for and wants that, not a tree. A *shape* is the type it wants,
built from a few scalars by options, lists, maps and pairs; `Shape.Value` is the type itself.
Shapes are data, so that a law about "every shape, nested however deep" is an induction.
-/

namespace RespLink

/-- What a reply can be read as. -/
inductive Shape where
  /-- The reply as it is, unless it is an error. -/
  | reply
  /-- Nothing but the absence of an error. -/
  | unit
  | text
  | bytes
  | integer
  | unsigned
  | float
  | flag
  /-- The items of an array as they are, errors among them. -/
  | replies
  /-- A value, or nothing where the reply is null. -/
  | optional (item : Shape)
  | list (item : Shape)
  /-- An array of fields and values in turn. -/
  | map (key value : Shape)
  /-- An array of two. -/
  | pair (first second : Shape)
  deriving DecidableEq, Repr, Inhabited

namespace Shape

/-- The values of a shape. -/
@[reducible] def Value : Shape → Type
  | .reply => Reply
  | .unit => Unit
  | .text => String
  | .bytes => Bytes
  | .integer => Int64
  | .unsigned => UInt64
  | .float => Binary64
  | .flag => Bool
  | .replies => List Reply
  | .optional item => Option item.Value
  | .list item => List item.Value
  | .map key value => Bindings key.Value value.Value
  | .pair first second => first.Value × second.Value

/-- Two values of one shape are equal or not. -/
def decEqValue : (s : Shape) → DecidableEq s.Value
  | .reply => inferInstanceAs (DecidableEq Reply)
  | .unit => inferInstanceAs (DecidableEq Unit)
  | .text => inferInstanceAs (DecidableEq String)
  | .bytes => inferInstanceAs (DecidableEq Bytes)
  | .integer => inferInstanceAs (DecidableEq Int64)
  | .unsigned => inferInstanceAs (DecidableEq UInt64)
  | .float => inferInstanceAs (DecidableEq Binary64)
  | .flag => inferInstanceAs (DecidableEq Bool)
  | .replies => inferInstanceAs (DecidableEq (List Reply))
  | .optional item =>
    have := decEqValue item
    inferInstanceAs (DecidableEq (Option item.Value))
  | .list item =>
    have := decEqValue item
    inferInstanceAs (DecidableEq (List item.Value))
  | .map key value =>
    have := decEqValue key
    have := decEqValue value
    inferInstanceAs (DecidableEq (Bindings key.Value value.Value))
  | .pair first second =>
    have := decEqValue first
    have := decEqValue second
    inferInstanceAs (DecidableEq (first.Value × second.Value))

instance (s : Shape) : DecidableEq s.Value := decEqValue s

end Shape

end RespLink
