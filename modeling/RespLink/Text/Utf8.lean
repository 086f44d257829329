import RespLink.Bytes

/-!
# UTF-8 — between bytes and text

Texts are sent as UTF-8 and bytes that claim to be text are checked. Three readings of a byte
string are needed, and they differ in what they do with bytes that are no UTF-8:

* `Text.ofBytes?` refuses them;
* `Text.fault` says where the first of them stands and how many belong together;
* `Text.ofBytesLossy` writes one replacement character for each such group and goes on.

A group is a *maximal subpart*: the longest run that starts some character, or a single byte
where no character starts. `Text.part` finds it, so that the last two agree on it.
-/

namespace RespLink
namespace Text

/-- The UTF-8 bytes of a text. -/
def toBytes (s : String) : Bytes := s.toByteArray.data.toList

/-- The text whose UTF-8 is exactly `bytes`. -/
def ofBytes? (bytes : Bytes) : Option String := String.fromUTF8? ⟨bytes.toArray⟩

theorem ofBytes?_toBytes (s : String) : ofBytes? (toBytes s) = some s := by
  have h : (⟨s.toByteArray.data.toList.toArray⟩ : ByteArray) = s.toByteArray := rfl
  simp only [ofBytes?, toBytes, h, String.fromUTF8?, s.isValidUTF8, dite_true]
  rfl

theorem toBytes_of_ofBytes? {bytes : Bytes} {s : String} (h : ofBytes? bytes = some s) :
    toBytes s = bytes := by
  unfold ofBytes? String.fromUTF8? at h
  split at h
  · cases h; rfl
  · cases h

theorem toBytes_injective {s t : String} (h : toBytes s = toBytes t) : s = t := by
  have := ofBytes?_toBytes s
  rw [h, ofBytes?_toBytes] at this
  exact (Option.some.inj this).symm

/-! ## Parts: a character, or a group of bytes that is none -/

/-- What a first byte announces: how many bytes follow it, and the range of the next one. The
    later ones range over all continuation bytes; the next one may not, which is what excludes
    overlong forms, surrogates and code points past the last. -/
structure Lead where
  tails : Nat
  low : UInt8
  high : UInt8
  deriving DecidableEq, Repr

/-- The announcement of a first byte, if a character can start with it. -/
def Lead.of? (b : UInt8) : Option Lead :=
  if b ≤ 0x7F then some ⟨0, 0x80, 0xBF⟩
  else if b < 0xC2 then none
  else if b ≤ 0xDF then some ⟨1, 0x80, 0xBF⟩
  else if b = 0xE0 then some ⟨2, 0xA0, 0xBF⟩
  else if b = 0xED then some ⟨2, 0x80, 0x9F⟩
  else if b ≤ 0xEF then some ⟨2, 0x80, 0xBF⟩
  else if b = 0xF0 then some ⟨3, 0x90, 0xBF⟩
  else if b ≤ 0xF3 then some ⟨3, 0x80, 0xBF⟩
  else if b = 0xF4 then some ⟨3, 0x80, 0x8F⟩
  else none

/-- How many of the `n` bytes that should follow are there; the first of them lies between `low`
    and `high`. -/
def following (low high : UInt8) : Nat → Bytes → Nat
  | 0, _ => 0
  | _ + 1, [] => 0
  | n + 1, b :: rest =>
    if low ≤ b ∧ b ≤ high then following 0x80 0xBF n rest + 1 else 0

/-- The group of bytes at the front of a byte string. -/
structure Part where
  /-- Number of bytes after the first one. -/
  more : Nat
  /-- Whether the group is a character. -/
  whole : Bool
  /-- Whether the group could still become a character if more bytes came. -/
  unfinished : Bool
  deriving DecidableEq, Repr

/-- The group at the front of `first :: rest`. -/
def part (first : UInt8) (rest : Bytes) : Part :=
  match Lead.of? first with
  | none => ⟨0, false, false⟩
  | some lead =>
    let n := following lead.low lead.high lead.tails rest
    if n = lead.tails then ⟨n, true, false⟩ else ⟨n, false, (rest.drop n).isEmpty⟩

/-- The code point that a whole group spells: the value bits of the first byte, then six of each
    later one. -/
def codePoint (first : UInt8) (rest : Bytes) : Nat :=
  let lead := first.toNat
  let top :=
    if lead < 0x80 then lead
    else if lead < 0xE0 then lead % 0x20
    else if lead < 0xF0 then lead % 0x10
    else lead % 0x08
  rest.foldl (fun value b => value * 64 + b.toNat % 64) top

/-- What stands for a group of bytes that is no character. -/
def replacement : Char := '\uFFFD'

/-- The characters of `bytes`, with one `replacement` for each group that is none, after those
    already read (in reverse). -/
def lossyChars (done : List Char) : Bytes → List Char
  | [] => done.reverse
  | b :: rest =>
    let p := part b rest
    let c := if p.whole then Char.ofNat (codePoint b (rest.take p.more)) else replacement
    lossyChars (c :: done) (rest.drop p.more)
  termination_by bytes => bytes.length
  decreasing_by simp only [List.length_drop, List.length_cons]; omega

/-- The text of `bytes`, reading each maximal group that is no UTF-8 as U+FFFD. -/
def ofBytesLossy (bytes : Bytes) : String := String.ofList (lossyChars [] bytes)

/-- Where UTF-8 breaks off: the number of bytes before that are well formed, and the size of the
    group that is not; no size when the bytes merely end too early. -/
structure Fault where
  offset : Nat
  width : Option Nat
  deriving DecidableEq, Repr, Inhabited

/-- The first fault of `bytes`, `before` bytes into the text; at its end when there is none. -/
def faultFrom (before : Nat) : Bytes → Fault
  | [] => ⟨before, none⟩
  | b :: rest =>
    let p := part b rest
    if p.whole then faultFrom (before + 1 + p.more) (rest.drop p.more)
    else ⟨before, if p.unfinished then none else some (p.more + 1)⟩
  termination_by bytes => bytes.length
  decreasing_by simp only [List.length_drop, List.length_cons]; omega

/-- The first fault of bytes that are no UTF-8. -/
def fault (bytes : Bytes) : Fault := faultFrom 0 bytes

end Text
end RespLink
