import RespLink.Frame.Writer
import RespLink.Text.Blank

/-!
# Commands — what is asked of the server

A command has a name and arguments. The name may be several words, which are sent as if they
were arguments of their own; a request on the wire is an array of byte strings, the *tokens*:
the words of the name and then the arguments. Because every token is sent with its length, no
argument can break out of its place, whatever bytes it holds.

The sizes are computed without encoding anything, so that a buffer can be chosen beforehand.
What a command does to a connection depends on its *keyword*, the first word in capitals.
-/

namespace RespLink

/-- A name and its arguments. -/
structure Command where
  name : String
  args : List Bytes
  deriving DecidableEq, Repr, Inhabited

/-- The size of a token on the wire: its mark, its length, two line ends and its bytes. -/
def tokenSize (token : Bytes) : Nat :=
  1 + (Decimal.ofNat token.length).length + 2 + token.length + 2

namespace Command

/-- The words of the name. -/
def words (c : Command) : List String := Text.words c.name

/-- What is sent, part by part. -/
def tokens (c : Command) : List Bytes := c.words.map Text.toBytes ++ c.args

/-- The number of parts. -/
def tokenCount (c : Command) : Nat := c.words.length + c.args.length

/-- The line before the tokens. -/
def header (c : Command) : Bytes := arrayHeader c.tokenCount

/-- The bytes of the request. -/
def encode (c : Command) : Bytes := c.header ++ (c.tokens.map bulkFrame).flatten

/-! ## Sizes -/

/-- The size of the header. -/
def headerSize (c : Command) : Nat := 1 + (Decimal.ofNat c.tokenCount).length + 2

/-- The size of the request. -/
def encodedSize (c : Command) : Nat :=
  c.tokens.foldl (fun size t => size + tokenSize t) c.headerSize

/-- The size of the largest part that has to be written in one piece. -/
def largestPart (c : Command) : Nat := (c.tokens.map tokenSize).foldl max c.headerSize

/-! ## Keywords -/

/-- The first word of the name, its ASCII letters in capitals; empty if there is none. -/
def keyword (c : Command) : String := (c.words.head?.getD "").toUpper

def isMulti (c : Command) : Bool := c.keyword == "MULTI"

def isExec (c : Command) : Bool := c.keyword == "EXEC"

def isDiscard (c : Command) : Bool := c.keyword == "DISCARD"

/-- Whether the command changes what the connection is subscribed to. -/
def isSubscriptionChange (c : Command) : Bool :=
  c.keyword ∈ ["SUBSCRIBE", "PSUBSCRIBE", "UNSUBSCRIBE", "PUNSUBSCRIBE"]

/-- Whether a connection that replies are pushed on still takes the command. -/
def isPushCommand (c : Command) : Bool :=
  c.isSubscriptionChange || c.keyword ∈ ["PING", "QUIT"]

/-! ## Views -/

/-- A command for a person: the name and the arguments, as far as they are text. -/
def display (c : Command) : String :=
  let args := String.intercalate " " (c.args.map Text.ofBytesLossy)
  if args.isEmpty then c.name else c.name ++ " " ++ args

/-- A command for a log: its arguments may be secret, so only their number is shown. -/
def summary (c : Command) : String :=
  "Command \x7b name: " ++ Text.quoted c.name ++ ", args: " ++ toString c.args.length ++ " \x7d"

end Command

end RespLink
