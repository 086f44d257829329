import RespLink.Request.Argument
import RespLink.Request.Basic
import RespLink.Text.Span

/-!
# The catalogue — common commands with their answers

The commands that a client needs for itself, and a handful of those that everybody uses. For
each the answer's shape is the one that the server's documentation promises. What subscription
commands are answered with is pushed, so their requests have no shape of their own.
-/

namespace RespLink
namespace Catalog

/-- A request by name. -/
def request (name : String) (args : List Bytes) (answer : Shape) : Request := ⟨⟨name, args⟩, answer⟩

/-! ## The connection itself -/

def ping : Request := request "PING" [] .text

def echo (message : Bytes) : Request := request "ECHO" [message] .bytes

def auth (password : Bytes) : Request := request "AUTH" [password] .unit

def select (index : UInt32) : Request := request "SELECT" [Argument.ofInt index.toNat] .unit

def quit : Request := request "QUIT" [] .unit

/-! ## Keys -/

def get (key : Bytes) : Request := request "GET" [key] (.optional .bytes)

def set (key value : Bytes) : Request := request "SET" [key, value] .unit

/-- Sets a key for a span of time, in whole milliseconds modulo 2⁶⁴. -/
def setFor (key value : Bytes) (span : Span) : Request :=
  request "SET"
    [key, value, Argument.ofText "PX", Argument.ofInt (span.milliseconds % UInt64.size : Nat)] .unit

def del (keys : List Bytes) : Request := request "DEL" keys .integer

def incr (key : Bytes) : Request := request "INCR" [key] .integer

def incrBy (key : Bytes) (increment : Int64) : Request :=
  request "INCRBY" [key, Argument.ofInt increment.toInt] .integer

/-- One page of the keys, from a cursor on: the next cursor, and the keys of the page. -/
def scan (cursor : UInt64) : Request :=
  request "SCAN" [Argument.ofInt cursor.toNat] (.pair .unsigned (.list .text))

/-! ## Hashes -/

def hset (key field value : Bytes) : Request := request "HSET" [key, field, value] .integer

def hget (key field : Bytes) : Request := request "HGET" [key, field] (.optional .bytes)

def hdel (key : Bytes) (fields : List Bytes) : Request := request "HDEL" (key :: fields) .integer

def hgetall (key : Bytes) : Request := request "HGETALL" [key] (.map .text .bytes)

/-! ## Subscriptions -/

def publish (channel message : Bytes) : Request := request "PUBLISH" [channel, message] .integer

def subscribe (channels : List Bytes) : Request := request "SUBSCRIBE" channels .reply

def psubscribe (patterns : List Bytes) : Request := request "PSUBSCRIBE" patterns .reply

def unsubscribe (channels : List Bytes) : Request := request "UNSUBSCRIBE" channels .reply

def punsubscribe (patterns : List Bytes) : Request := request "PUNSUBSCRIBE" patterns .reply

/-! ## Transactions -/

def multi : Request := request "MULTI" [] .unit

/-- Runs what was queued. One command that fails does not hide the others, so the items stay as
    they are; null says that a watched key changed and nothing was run. -/
def exec : Request := request "EXEC" [] (.optional .replies)

def discard : Request := request "DISCARD" [] .unit

def watch (keys : List Bytes) : Request := request "WATCH" keys .unit

def unwatch : Request := request "UNWATCH" [] .unit

end Catalog
end RespLink
