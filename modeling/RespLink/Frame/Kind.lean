import RespLink.Bytes

/-!
# Frame kinds — the first byte

The first byte of a frame says which of five kinds it is. A frame has no other header, so a byte
that is none of the five ends the stream for good: nothing tells where the next frame begins.
-/

namespace RespLink

/-- What the first byte of a frame announces. -/
inductive Kind where
  | status
  | error
  | integer
  | bulk
  | array
  deriving DecidableEq, Repr, Inhabited

namespace Kind

/-- The byte that announces a kind: `+`, `-`, `:`, `$` or `*`. -/
def byte : Kind → UInt8
  | .status => 43
  | .error => 45
  | .integer => 58
  | .bulk => 36
  | .array => 42

/-- The kind that a byte announces. -/
def ofByte? (b : UInt8) : Option Kind :=
  if b = 43 then some .status
  else if b = 45 then some .error
  else if b = 58 then some .integer
  else if b = 36 then some .bulk
  else if b = 42 then some .array
  else none

theorem ofByte?_byte (k : Kind) : ofByte? k.byte = some k := by cases k <;> rfl

theorem byte_of_ofByte? {b : UInt8} {k : Kind} (h : ofByte? b = some k) : k.byte = b := by
  unfold ofByte? at h
  split at h
  · subst_vars; cases h; rfl
  split at h
  · subst_vars; cases h; rfl
  split at h
  · subst_vars; cases h; rfl
  split at h
  · subst_vars; cases h; rfl
  split at h
  · subst_vars; cases h; rfl
  · cases h

end Kind

end RespLink
