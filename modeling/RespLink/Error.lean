import RespLink.Frame.Basic
import RespLink.Frame.Fault
import RespLink.Refusal
import RespLink.Text.Span

/-!
# Errors — how a request fails

Errors fall in two classes, and the client's behaviour turns on which. After a *fatal* one the
position in the stream is lost: nobody knows whose reply comes next, so the connection that met
it answers nothing any more. The others concern one request only: the server said no, the reply
was of another kind than expected, or the request was refused and never sent.
-/

namespace RespLink

/-- The kinds of reply that a conversion or a step of the protocol asks for. -/
inductive Expected where
  | text
  | utf8Text
  | bulk
  | integer
  | unsignedInteger
  | float
  | integerOrOk
  | array
  | fieldValuePairs
  | twoElements
  | status
  | pushArray
  | pushKind
  | subscriptionCount
  | channel
  | pattern
  | payload
  deriving DecidableEq, Repr, Inhabited

/-- How an expected kind is called. -/
def Expected.label : Expected → String
  | .text => "text"
  | .utf8Text => "UTF-8 text"
  | .bulk => "bulk"
  | .integer => "integer"
  | .unsignedInteger => "unsigned integer"
  | .float => "float"
  | .integerOrOk => "integer or OK"
  | .array => "array"
  | .fieldValuePairs => "array of field/value pairs"
  | .twoElements => "two element array"
  | .status => "status"
  | .pushArray => "push array"
  | .pushKind => "push kind"
  | .subscriptionCount => "subscription count"
  | .channel => "channel"
  | .pattern => "pattern"
  | .payload => "message payload"

/-- What came instead of an expected kind. -/
inductive Found where
  | status
  | error
  | integer
  | bulk
  | nullBulk
  | array
  | nullArray
  | binaryBulk
  | nonStatus
  | nonArray
  | unknownPushKind
  | missingCount
  | missingElement
  deriving DecidableEq, Repr, Inhabited

/-- How a found kind is called. -/
def Found.label : Found → String
  | .status => "status"
  | .error => "error"
  | .integer => "integer"
  | .bulk => "bulk"
  | .nullBulk => "null bulk"
  | .array => "array"
  | .nullArray => "null array"
  | .binaryBulk => "binary bulk"
  | .nonStatus => "non status reply"
  | .nonArray => "non array reply"
  | .unknownPushKind => "unknown push kind"
  | .missingCount => "missing count"
  | .missingElement => "missing element"

/-- The kind of a reply. -/
def Reply.found : Reply → Found
  | .status _ => .status
  | .error _ => .error
  | .integer _ => .integer
  | .bulk _ => .bulk
  | .nullBulk => .nullBulk
  | .array _ => .array
  | .nullArray => .nullArray

/-- How a byte stream fails. -/
inductive StreamFault where
  /-- No route leads to the address. -/
  | unreachable
  /-- Nobody listens at the address. -/
  | refused
  /-- The stream ended in the middle of a frame. -/
  | cutOff
  /-- Nothing can be sent on the stream any more. -/
  | brokenPipe
  deriving DecidableEq, Repr, Inhabited

namespace StreamFault

/-- The wording of a stream fault. -/
def message : StreamFault → String
  | .unreachable => "Network is unreachable (os error 101)"
  | .refused => "Connection refused (os error 111)"
  | .cutOff => "bytes remaining on stream"
  | .brokenPipe => "Broken pipe (os error 32)"

/-- A stream fault with all it carries, as a failed program reports it. -/
def report : StreamFault → String
  | .unreachable =>
    "Os \x7b code: 101, kind: NetworkUnreachable, message: \"Network is unreachable\" \x7d"
  | .refused => "Os \x7b code: 111, kind: ConnectionRefused, message: \"Connection refused\" \x7d"
  | .cutOff => "Custom \x7b kind: Other, error: \"bytes remaining on stream\" \x7d"
  | .brokenPipe => "Os \x7b code: 32, kind: BrokenPipe, message: \"Broken pipe\" \x7d"

end StreamFault

/-- Why a request failed. -/
inductive Error where
  /-- The server answered with an error. -/
  | server (text : String)
  /-- The bytes that came are no frame. -/
  | protocol (fault : FrameFault)
  /-- A frame came that is not of the kind asked for. -/
  | unexpectedReply (expected : Expected) (actual : Found)
  /-- The stream failed. -/
  | io (fault : StreamFault)
  /-- The peer ended the stream between two frames. -/
  | connectionClosed
  /-- Nothing came for so long. -/
  | timeout (span : Span)
  /-- An earlier failure, worded by `reason`, made the stream unusable. -/
  | tainted (reason : String)
  /-- The request was refused and nothing was sent. -/
  | usage (refusal : Refusal)
  deriving DecidableEq, Repr, Inhabited

namespace Error

/-- Whether the position in the stream is lost. -/
def isFatal : Error → Bool
  | .protocol _ | .io _ | .connectionClosed | .timeout _ | .tainted _ => true
  | .server _ | .unexpectedReply _ _ | .usage _ => false

/-- The wording of an error. -/
def message : Error → String
  | .server text => "server error: " ++ text
  | .protocol fault => "protocol error: " ++ fault.message
  | .unexpectedReply expected actual =>
    "protocol error; unexpected reply, expected " ++ expected.label ++ ", got " ++ actual.label
  | .io fault => "io error: " ++ fault.message
  | .connectionClosed => "connection closed"
  | .timeout span => "timed out after " ++ span.text
  | .tainted reason => "connection is unusable after a previous failure: " ++ reason
  | .usage refusal => "usage error: " ++ refusal.message

/-- An error with all it carries, as a failed program reports it. -/
def report : Error → String
  | .server text => "Server(" ++ Text.quoted text ++ ")"
  | .protocol fault => "Protocol(" ++ fault.report ++ ")"
  | .unexpectedReply expected actual =>
    "UnexpectedReply \x7b expected: " ++ Text.quoted expected.label ++ ", actual: "
      ++ Text.quoted actual.label ++ " \x7d"
  | .io fault => "Io(" ++ fault.report ++ ")"
  | .connectionClosed => "ConnectionClosed"
  | .timeout span => "Timeout(" ++ span.text ++ ")"
  | .tainted reason => "Tainted(" ++ Text.quoted reason ++ ")"
  | .usage refusal => "Usage(" ++ Text.quoted refusal.message ++ ")"

end Error

end RespLink
