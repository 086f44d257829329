import RespLink.Error

/-!
# Pushed frames — what a subscribed connection receives

Once a connection subscribes, replies no longer answer requests one by one: the server pushes
arrays, each of which begins with a word that says what it is. Three things are pushed. An
*acknowledgement* confirms one name of a subscription change and carries the number of
subscriptions that are left; a *message* was published; a *pong* answers a ping.

`Push.ofReply` only reads. What an acknowledgement does to a connection is the business of
`Subscription`.
-/

namespace RespLink

/-- The words that pushed frames begin with. -/
inductive PushKind where
  | subscribe
  | psubscribe
  | unsubscribe
  | punsubscribe
  | message
  | pmessage
  | pong
  deriving DecidableEq, Repr, Inhabited

namespace PushKind

/-- The word itself. -/
def word : PushKind → String
  | .subscribe => "subscribe"
  | .psubscribe => "psubscribe"
  | .unsubscribe => "unsubscribe"
  | .punsubscribe => "punsubscribe"
  | .message => "message"
  | .pmessage => "pmessage"
  | .pong => "pong"

/-- Every kind. -/
def all : List PushKind :=
  [.subscribe, .psubscribe, .unsubscribe, .punsubscribe, .message, .pmessage, .pong]

/-- The kind that a word names, in ASCII letters of either case. -/
def ofWord? (word : String) : Option PushKind := all.find? fun k => k.word == word.toLower

/-- What is said of a word that names no kind. -/
def unknownMessage : String := "Matching variant not found"

/-- Whether the name that goes with the kind is a pattern. -/
def isPattern : PushKind → Bool
  | .psubscribe | .punsubscribe => true
  | _ => false

end PushKind

/-- A subscription change as its acknowledgement reports it. -/
structure SubscriptionChange where
  kind : PushKind
  /-- The name concerned, if it is a channel. -/
  channel : Option String
  /-- The name concerned, if it is a pattern. -/
  pattern : Option String
  /-- The number of subscriptions that are left. -/
  count : Int
  deriving DecidableEq, Repr, Inhabited

/-- A published message: where it was published, and the pattern that matched if it came through
    one. -/
structure Message where
  channel : String
  pattern : Option String
  payload : Bytes
  deriving DecidableEq, Repr, Inhabited

/-- What is reported to whoever watches a connection. -/
inductive Event where
  | changed (change : SubscriptionChange)
  | received (message : Message)
  /-- A command was queued; the server's word for it. -/
  | queued (status : String)
  deriving DecidableEq, Repr, Inhabited

/-- A pushed frame. -/
inductive Push where
  /-- An acknowledgement, with the count just as it was sent. -/
  | acknowledgement (kind : PushKind) (name : Option String) (count : Int64)
  | message (message : Message)
  | pong
  deriving DecidableEq, Repr, Inhabited

namespace Push

/-- The text of the next item, named for the message if it is missing. -/
def textItem (expected : Expected) : List Reply → Except Error (String × List Reply)
  | [] => .error (.unexpectedReply expected .missingElement)
  | r :: rest =>
    match r.text? with
    | some s => .ok (s, rest)
    | none => .error (.unexpectedReply expected .missingElement)

/-- The bytes of a published message, as a byte string or as a line. -/
def payloadItem : List Reply → Except Error Bytes
  | .bulk data :: _ => .ok data
  | .status s :: _ => .ok (Text.toBytes s)
  | _ => .error (.unexpectedReply .payload .missingElement)

/-- What an acknowledgement of a kind says after its word. -/
def acknowledged (kind : PushKind) (items : List Reply) : Except Error Push :=
  match items.drop 1 with
  | .integer count :: _ => .ok (.acknowledgement kind (items.head?.bind Reply.text?) count)
  | _ => .error (.unexpectedReply .subscriptionCount .missingCount)

/-- What the items after the word of a kind say. -/
def ofItems (kind : PushKind) (items : List Reply) : Except Error Push :=
  match kind with
  | .subscribe | .psubscribe | .unsubscribe | .punsubscribe => acknowledged kind items
  | .message => do
    let (channel, rest) ← textItem .channel items
    let payload ← payloadItem rest
    return .message ⟨channel, none, payload⟩
  | .pmessage => do
    let (pattern, rest) ← textItem .pattern items
    let (channel, rest) ← textItem .channel rest
    let payload ← payloadItem rest
    return .message ⟨channel, some pattern, payload⟩
  | .pong => .ok .pong

/-- The pushed frame that a reply is. -/
def ofReply : Reply → Except Error Push
  | .array items =>
    match (items.head?.bind Reply.text?).bind PushKind.ofWord? with
    | some kind => ofItems kind (items.drop 1)
    | none => .error (.unexpectedReply .pushKind .unknownPushKind)
  | .error text => .error (.server text)
  | r => .error (.unexpectedReply .pushArray r.found)

end Push

end RespLink
