import RespLink.Proofs.Hub.Shares
import RespLink.Proofs.Run

/-!
# Lending — a pool and whoever borrows from it

A pool does nothing by itself. Here it is put among borrowers of all kinds: they ask, wait or go
away instead, take their buffer, write into it what they like, put it back and return the permit,
in any order among each other, and at any moment somebody may close the pool. A step of one
borrower is one exchange of shares, so whatever the order nothing is lost
(`Lending.accounted_of_run`).
-/

namespace RespLink

open Pool

/-- Where somebody is who has asked a pool for a buffer. -/
inductive Borrower where
  | waiting
  /-- Has a permit and no buffer yet. -/
  | permitted
  | holding (buffer : Bytes)
  /-- Has put its buffer back and still has the permit. -/
  | returning
  | gone
  deriving DecidableEq, Repr

namespace Borrower

/-- What a borrower can do. -/
inductive Act where
  /-- Looks whether it is its turn. -/
  | look
  /-- Waits no longer. -/
  | leave
  | take
  | fill (bytes : Bytes)
  | putBack
  | giveBack
  deriving DecidableEq, Repr

/-- Where somebody goes that was given an answer. -/
def answered : Claim → Borrower
  | .permitted => .permitted
  | .wait => .waiting
  | .turnedAway => .gone

/-- One act of borrower `who`, if it is possible: where it goes, and the pool afterwards. -/
def act? (p : Pool) (who : Nat) : Borrower → Act → Option (Borrower × Pool)
  | .waiting, .look => some (answered (p.look who).1, (p.look who).2)
  | .waiting, .leave => some (.gone, p.withdraw who)
  | .permitted, .take => some (.holding p.takeBuffer.1, p.takeBuffer.2)
  | .holding _, .fill bytes => some (.holding bytes, p)
  | .holding _, .putBack => some (.returning, p.putBuffer)
  | .returning, .giveBack => some (.gone, p.giveBack)
  | _, _ => none

/-- What a borrower has. -/
def share : Borrower → Share
  | .waiting => .place
  | .permitted => .permit
  | .holding _ => .buffer
  | .returning => .returned
  | .gone => .nothing

theorem share_answered (claim : Claim) : (answered claim).share = claim.share := by
  cases claim <;> rfl

variable {p p' : Pool} {who : Nat} {b b' : Borrower} {act : Act}

theorem deals_act (hact : b.act? p who act = some (b', p')) :
    p.Deals who b.share b'.share p' := by
  cases b with
  | waiting =>
    cases act with
    | look =>
      cases hact
      rw [share_answered]
      exact deals_look p who
    | leave =>
      cases hact
      exact .withdraws
    | _ => cases hact
  | permitted =>
    cases act with
    | take =>
      cases hact
      exact .takes
    | _ => cases hact
  | holding buffer =>
    cases act with
    | fill bytes =>
      cases hact
      exact .rests .buffer
    | putBack =>
      cases hact
      exact .puts
    | _ => cases hact
  | returning =>
    cases act with
    | giveBack =>
      cases hact
      exact .returns
    | _ => cases hact
  | gone => cases hact

end Borrower

/-- A pool and all who have asked it for a buffer. -/
structure Lending where
  pool : Pool
  borrowers : List Borrower
  deriving DecidableEq, Repr

namespace Lending

inductive Move where
  /-- Somebody new asks for a permit. -/
  | ask
  | act (borrower : Nat) (act : Borrower.Act)
  | close
  deriving DecidableEq, Repr

/-- A pool that nobody has asked yet. -/
def start (capacity count : Nat) : Lending := ⟨Pool.start capacity count, []⟩

/-- What happens with a move, if the move is possible. -/
def step? (l : Lending) : Move → Option Lending
  | .ask =>
    let answer := l.pool.ask l.borrowers.length
    some ⟨answer.2, l.borrowers ++ [.answered answer.1]⟩
  | .act i act =>
    match l.borrowers[i]? with
    | some b => (b.act? l.pool i act).map fun (b', pool) => ⟨pool, l.borrowers.set i b'⟩
    | none => none
  | .close => some { l with pool := l.pool.close }

/-- What happens with several moves, if each is possible in its turn. -/
def run? (l : Lending) : List Move → Option Lending
  | [] => some l
  | m :: moves => (l.step? m).bind fun l' => l'.run? moves

theorem iterates : Iterates step? run? where
  nil _ := rfl
  cons _ _ _ := rfl

/-- What everybody has. -/
def shares (l : Lending) : List Share := l.borrowers.map Borrower.share

variable {l l' : Lending} {m : Move} {moves : List Move} {i count : Nat} {b : Borrower}

theorem shares_getElem? (hi : l.borrowers[i]? = some b) : l.shares[i]? = some b.share := by
  rw [shares, List.getElem?_map, hi]
  rfl

/-- Every move keeps what the pool has lent. -/
theorem lends_step (hl : l.pool.Lends count l.shares []) (hstep : l.step? m = some l') :
    l'.pool.Lends count l'.shares [] := by
  cases m with
  | ask =>
    obtain rfl := Option.some.inj hstep
    have hlent := hl.comes (deals_ask l.pool l.shares.length)
    rw [← Borrower.share_answered, shares, List.length_map] at hlent
    simpa only [shares, List.map_append, List.map_singleton] using hlent
  | act i act =>
    simp only [step?] at hstep
    split at hstep
    · rename_i b hi
      obtain ⟨⟨b', pool⟩, hact, rfl⟩ := Option.map_eq_some_iff.mp hstep
      have hlent := hl.borrower (shares_getElem? hi) (Borrower.deals_act hact)
      rw [shares, ← List.map_set] at hlent
      exact hlent
    · cases hstep
  | close =>
    cases hstep
    exact hl.close

/-- How a pool of so many buffers stands among its borrowers. -/
structure Accounted (l : Lending) (count : Nat) : Prop where
  conserved : l.pool.Conserved count l.shares
  /-- Who has a permit gets a buffer off the shelf, and it is empty. -/
  takes : ∀ i, l.borrowers[i]? = some .permitted → ∃ rest, l.pool.shelf = [] :: rest ∧
    l.step? (.act i .take) = some ⟨{ l.pool with shelf := rest }, l.borrowers.set i (.holding [])⟩

/-- Whatever borrowers do, and whenever the pool is closed, nothing is lost. -/
theorem accounted_of_run (capacity : Nat)
    (hrun : (Lending.start capacity count).run? moves = some l) : l.Accounted count := by
  have hlends : l.pool.Lends count l.shares [] :=
    iterates.always lends_step (.start capacity count) hrun
  have hconserved := hlends.conserved
  rw [List.append_nil] at hconserved
  refine ⟨hconserved, ?_⟩
  intro i hi
  have hpermit : .permit ∈ l.shares := List.mem_of_getElem? (shares_getElem? hi)
  obtain ⟨rest, hshelf⟩ := hconserved.finds hpermit
  refine ⟨rest, hshelf, ?_⟩
  simp [step?, hi, Borrower.act?, takeBuffer_cons hshelf]

end Lending

end RespLink
