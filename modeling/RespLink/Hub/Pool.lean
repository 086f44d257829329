import RespLink.Bytes

/-!
# Pools — transfer buffers lent to callers

A pool owns a fixed number of buffers and lends them. What a borrower needs is a *permit*; the
buffer itself is taken off the shelf afterwards, and on the way back the buffer comes first and
the permit last. That order is the reason why a borrower with a permit always finds a buffer.

Who finds no permit waits in line. A permit that comes back while somebody waits is not put back
but granted to whoever has waited longest, who will notice in time, or withdraw and pass it on.
A closed pool lends nothing more and turns away everybody in line, but takes back what it lent.
-/

namespace RespLink

/-- A fixed number of buffers, lent to borrowers who are known by number. -/
structure Pool where
  /-- The size of one buffer. -/
  capacity : Nat
  /-- Permits that nobody has. -/
  permits : Nat
  /-- Buffers that nobody has, the one put back last in front. -/
  shelf : List Bytes
  /-- Who waits for a permit, the longest first. -/
  line : List Nat
  /-- Who was granted a permit while waiting and has not noticed yet. -/
  granted : List Nat
  closed : Bool
  deriving DecidableEq, Repr, Inhabited

namespace Pool

/-- A pool of so many empty buffers. -/
def start (capacity count : Nat) : Pool := ⟨capacity, count, List.replicate count [], [], [], false⟩

/-- The answer to somebody who asks for a permit. -/
inductive Claim where
  | permitted
  | wait
  | turnedAway
  deriving DecidableEq, Repr, Inhabited

/-- Gives a permit back: to whoever has waited longest, if anybody has. -/
def giveBack (p : Pool) : Pool :=
  match p.line with
  | [] => { p with permits := p.permits + 1 }
  | who :: rest => { p with line := rest, granted := p.granted ++ [who] }

/-- Somebody asks for a permit. -/
def ask (p : Pool) (who : Nat) : Claim × Pool :=
  if p.closed then (.turnedAway, p)
  else if 0 < p.permits then (.permitted, { p with permits := p.permits - 1 })
  else (.wait, { p with line := p.line ++ [who] })

/-- Somebody leaves the line. A permit granted meanwhile is given back. -/
def withdraw (p : Pool) (who : Nat) : Pool :=
  if who ∈ p.granted then { p with granted := p.granted.erase who }.giveBack
  else { p with line := p.line.erase who }

/-- Somebody in line looks whether it is their turn. A pool that has closed turns away also those
    to whom a permit was granted. -/
def look (p : Pool) (who : Nat) : Claim × Pool :=
  if p.closed then (.turnedAway, p.withdraw who)
  else if who ∈ p.granted then (.permitted, { p with granted := p.granted.erase who })
  else (.wait, p)

/-- Takes a buffer off the shelf. Should there be none, it is made. -/
def takeBuffer (p : Pool) : Bytes × Pool :=
  match p.shelf with
  | [] => ([], p)
  | _ :: rest => ([], { p with shelf := rest })

/-- Puts an emptied buffer on the shelf. -/
def putBuffer (p : Pool) : Pool := { p with shelf := [] :: p.shelf }

/-- Closes the pool. -/
def close (p : Pool) : Pool := { p with closed := true, line := [] }

end Pool

end RespLink
