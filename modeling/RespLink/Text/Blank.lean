/-!
# Blanks — the characters that separate the words of a name

A command's name may be several words, and any character with the Unicode property
`White_Space` separates two of them. The property is wider than ASCII's blanks and narrower than
"looks empty": the zero-width space U+200B is not in it.
-/

namespace RespLink
namespace Text

/-- Whether a character has the property `White_Space`. -/
def isBlank (c : Char) : Bool :=
  let n := c.toNat
  (9 ≤ n && n ≤ 13) || n = 0x20 || n = 0x85 || n = 0xA0 || n = 0x1680
    || (0x2000 ≤ n && n ≤ 0x200A) || n = 0x2028 || n = 0x2029 || n = 0x202F || n = 0x205F
    || n = 0x3000

theorem isBlank_of_isWhitespace {c : Char} (h : c.isWhitespace) : isBlank c := by
  have h' : c = ' ' ∨ c = '\t' ∨ c = '\r' ∨ c = '\n' := by
    simpa [Char.isWhitespace, or_assoc] using h
  rcases h' with rfl | rfl | rfl | rfl <;> decide

/-- The words of a text, after the words already read and the word being read (both in
    reverse). -/
def wordsFrom (done : List (List Char)) (word : List Char) : List Char → List (List Char)
  | [] => (if word.isEmpty then done else word.reverse :: done).reverse
  | c :: rest =>
    if isBlank c then wordsFrom (if word.isEmpty then done else word.reverse :: done) [] rest
    else wordsFrom done (c :: word) rest

/-- The words of a text: its longest runs without a blank, in order. -/
def words (s : String) : List String := (wordsFrom [] [] s.toList).map String.ofList

end Text
end RespLink
