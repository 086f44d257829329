import RespLink.Decimal.Binary64
import RespLink.Text.Utf8

/-!
# Arguments — values as the bytes that are sent

The server knows nothing but bytes. Bytes are sent as they are, text as UTF-8, whole numbers in
plain decimal, and floating-point numbers with the fewest digits that read back.
-/

namespace RespLink
namespace Argument

/-- A text. -/
def ofText (s : String) : Bytes := Text.toBytes s

/-- A character, as a text of its own. -/
def ofChar (c : Char) : Bytes := Text.toBytes c.toString

/-- A whole number, of whatever size. -/
def ofInt (i : Int) : Bytes := Decimal.ofInt i

/-- A floating-point number. -/
def ofFloat (x : Binary64) : Bytes := Text.toBytes x.text

end Argument
end RespLink
