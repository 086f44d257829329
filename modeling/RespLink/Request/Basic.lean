import RespLink.Request.Command
import RespLink.Shape.Project

/-!
# Requests — a command and what its reply is read as

The server does not say what type a reply has; the caller knows. A request carries that
knowledge along with the command.
-/

namespace RespLink

/-- A command and the shape of its answer. -/
structure Request where
  command : Command
  answer : Shape
  deriving DecidableEq, Repr, Inhabited

namespace Request

/-- A command whose reply is taken as it is. -/
def raw (command : Command) : Request := ⟨command, .reply⟩

/-- Reads the reply to a request. -/
def parse (q : Request) (r : Reply) : Except Error q.answer.Value := q.answer.project r

end Request

end RespLink
