import RespLink.Proofs.Connection.Books

/-!
# Contact — a connection and what its server has said

What a server says reaches a connection when it likes: its bytes may be underway for long, they
may arrive in pieces, and the peer may end its direction of the stream or be gone altogether. A
contact is a connection with what the server has said and what of that is still underway. None of
what the peer does to the stream moves the connection's books.
-/

namespace RespLink

/-- What a peer does to a stream. -/
inductive Peer where
  /-- Some of its bytes arrive. -/
  | deliver (bytes : Bytes)
  /-- It ends its direction. -/
  | finish
  /-- It is gone: nothing can be sent any more. -/
  | sever

/-- A stream after its peer did something to it. -/
def Stream.undergo (s : Stream) : Peer → Stream
  | .deliver bytes => s.receive bytes
  | .finish => s.finish
  | .sever => { s with broken := true }

/-- A connection and what its server has said. -/
structure Contact where
  connection : Connection
  /-- What the server has said. -/
  answers : List Answer
  /-- What of that has not arrived yet. -/
  underway : Bytes

namespace Contact

/-- A connection over a stream that nobody has used. -/
def start (settings : Settings) (stream : Stream) : Contact :=
  ⟨Connection.ofStream { stream with arrived := [], sent := [] } settings, [], []⟩

/-- The contact after the server has said one thing more. -/
def say (s : Contact) (a : Answer) : Contact :=
  { s with answers := s.answers ++ [a], underway := s.underway ++ a.bytes }

/-- What of the underway is left after the peer did something, if that is possible: only what the
    server has said can arrive. -/
def remaining? (s : Contact) : Peer → Option Bytes
  | .deliver bytes =>
    if bytes.isPrefixOf s.underway then some (s.underway.drop bytes.length) else none
  | .finish | .sever => some s.underway

/-- The contact after the peer did something, if that is possible. -/
def undergo? (s : Contact) (p : Peer) : Option Contact :=
  (s.remaining? p).map fun underway =>
    { s with
      connection := { s.connection with stream := s.connection.stream.undergo p }
      underway }

/-- The first `n` frames of the server have been read and the others have not. -/
def HasRead (s : Contact) (n : Nat) : Prop :=
  n ≤ s.answers.length ∧
    s.connection.inlet.unread s.connection.stream ++ s.underway = spell (s.answers.drop n)

instance (s : Contact) (n : Nat) : Decidable (s.HasRead n) := inferInstanceAs (Decidable (_ ∧ _))

open Connection

variable {s s' : Contact} {accepted : List Command} {read : Nat}

theorem hasRead_of_books (h : Books s.answers s.underway accepted read s.connection) :
    s.HasRead read :=
  ⟨h.read_le, h.unread⟩

theorem HasRead.eq {m n : Nat} (hm : s.HasRead m) (hn : s.HasRead n) : m = n :=
  spell_drop_injective hm.1 hn.1 (hm.2.symm.trans hn.2)

theorem remaining?_arrived {p : Peer} {underway : Bytes} (h : s.remaining? p = some underway) :
    (s.connection.stream.undergo p).arrived ++ underway =
      s.connection.stream.arrived ++ s.underway := by
  cases p with
  | deliver bytes =>
    simp only [remaining?] at h
    split at h
    · rename_i hbytes
      cases h
      obtain ⟨later, hlater⟩ := List.isPrefixOf_iff_prefix.mp hbytes
      rw [← hlater, List.drop_left]
      simp [Stream.undergo, Stream.receive]
    · cases h
  | finish =>
    cases h
    rfl
  | sever =>
    cases h
    rfl

theorem sent_undergo (stream : Stream) (p : Peer) : (stream.undergo p).sent = stream.sent := by
  cases p <;> rfl

/-- The peer changes the stream and nothing else, and the books stay as they are. -/
theorem exists_of_undergo? {p : Peer} (h : s.undergo? p = some s') :
    ∃ stream underway, s' = { s with connection := { s.connection with stream }, underway } ∧
      ∀ {accepted : List Command} {read : Nat},
        Books s.answers s.underway accepted read s.connection →
        Books s.answers underway accepted read { s.connection with stream } := by
  obtain ⟨underway, hunderway, rfl⟩ := Option.map_eq_some_iff.mp h
  exact ⟨_, underway, rfl, fun hbooks =>
    hbooks.restream (sent_undergo _ p) (remaining?_arrived hunderway)⟩

theorem books_start (settings : Settings) (stream : Stream) :
    Books (start settings stream).answers (start settings stream).underway [] 0
      (start settings stream).connection :=
  ⟨rfl, Nat.le_refl 0, 0, rfl, rfl⟩

end Contact

end RespLink
