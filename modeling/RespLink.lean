import RespLink.Connection.Operation
import RespLink.Console.Run
import RespLink.Hub.Schedule
import RespLink.Main
import RespLink.Proofs.Decimal.Numeral
import RespLink.Proofs.Decimal.Spelling
import RespLink.Proofs.Decimal.Canonical
import RespLink.Proofs.Frame.RoundTrip
import RespLink.Proofs.Frame.Cutting
import RespLink.Proofs.Frame.Grammar
import RespLink.Proofs.Frame.Canonical
import RespLink.Proofs.Frame.Position
import RespLink.Proofs.Request.Decoding
import RespLink.Proofs.Request.Keyword
import RespLink.Proofs.Request.Transfer
import RespLink.Proofs.Stream.Answers
import RespLink.Proofs.Stream.Limit
import RespLink.Proofs.Hub.Drives
import RespLink.Proofs.Hub.World
import RespLink.Proofs.Hub.Callers
import RespLink.Proofs.Hub.Moves
import RespLink.Proofs.Hub.Chronicle
import RespLink.Proofs.Hub.Balance
import RespLink.Proofs.Hub.Order
import RespLink.Proofs.Hub.Steps
import RespLink.Proofs.Hub.Taint
import RespLink.Proofs.Hub.Correlation
import RespLink.Proofs.Connection.Books
import RespLink.Proofs.Connection.Session
import RespLink.Proofs.Connection.Contact
import RespLink.Proofs.Connection.Leaves
import RespLink.Proofs.Connection.Taint
import RespLink.Proofs.Connection.Dialogue
import RespLink.Proofs.Connection.OpenTransaction
import RespLink.Proofs.Connection.Taking
import RespLink.Proofs.Connection.PushMode
import RespLink.Proofs.Hub.Openings
import RespLink.Proofs.Hub.Disconnection
import RespLink.Proofs.Hub.Aftermath
import RespLink.Proofs.Connection.Refusing
import RespLink.Proofs.Connection.Requests
import RespLink.Proofs.Hub.Refusals
import RespLink.Proofs.Hub.Vetting
import RespLink.Proofs.Connection.Endings
import RespLink.Proofs.Connection.Failing
import RespLink.Proofs.Stream.Awaiting
import RespLink.Proofs.Connection.Hearing
import RespLink.Proofs.Connection.Closing
import RespLink.Proofs.Connection.Rejection
import RespLink.Proofs.Connection.Conversation
import RespLink.Proofs.Hub.Stages
import RespLink.Proofs.Hub.Procession
import RespLink.Proofs.Hub.Agreement
import RespLink.Proofs.Connection.Modes
import RespLink.Proofs.Subscriber.Loop
import RespLink.Proofs.Subscriber.Reception
import RespLink.Proofs.Subscriber.Vigil
import RespLink.Proofs.Subscriber.Readers
import RespLink.Proofs.Subscriber.Relay
import RespLink.Proofs.Shape.Pairs
import RespLink.Proofs.Push.Grammar
import RespLink.Proofs.Push.Bookkeeping
import RespLink.Proofs.Push.Registrations
import RespLink.Proofs.Subscriber.Calling
import RespLink.Proofs.Subscriber.Dispatch
import RespLink.Proofs.Hub.Shares
import RespLink.Proofs.Hub.Lending
import RespLink.Proofs.Hub.Borrowing
