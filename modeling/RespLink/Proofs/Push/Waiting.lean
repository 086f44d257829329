import RespLink.Push.Mailbox

/-!
# Waiting — which events a reader gets

A mailbox takes an event if there is room for it and anyone to read it. Its reader takes events when
it likes, and that makes room. So which events a reader gets is settled when they come, by how many
wait at that moment (`Mailbox.admitted`): `Mailbox.Serves` says that what a reader has taken and
what still waits for it is exactly that, and nothing that happens to a mailbox changes it.
-/

namespace RespLink

namespace Mailbox

/-- Events that come one after the other, each with the number of those that wait when it comes. -/
def moments (b : Mailbox) : List Event → List (Nat × Event)
  | [] => []
  | e :: es => (b.waiting.length, e) :: (b.deliver e).moments es

/-- The events that found room. -/
def admitted (capacity : Nat) (seen : List (Nat × Event)) : List Event :=
  (seen.filter fun moment => moment.1 < capacity).map Prod.snd

theorem admitted_append (capacity : Nat) (seen more : List (Nat × Event)) :
    admitted capacity (seen ++ more) = admitted capacity seen ++ admitted capacity more := by
  simp [admitted]

theorem map_snd_moments (b : Mailbox) (es : List Event) : (b.moments es).map Prod.snd = es := by
  induction es generalizing b with
  | nil => rfl
  | cons e es ih => exact congrArg (e :: ·) (ih _)

variable {b : Mailbox}

theorem deliver_of_room {e : Event} (hhere : b.abandoned = false)
    (hroom : b.waiting.length < b.capacity) :
    b.deliver e = { b with waiting := b.waiting ++ [e] } := by
  rw [deliver, if_neg]
  simp [hhere, hroom]

theorem deliver_of_full {e : Event} (hfull : b.capacity ≤ b.waiting.length) : b.deliver e = b :=
  if_pos (.inr hfull)

theorem foldl_deliver_of_abandoned (hleft : b.abandoned = true) (es : List Event) :
    es.foldl deliver b = b := by
  induction es with
  | nil => rfl
  | cons e es ih => rw [List.foldl_cons, show b.deliver e = b from if_pos (.inl hleft), ih]

theorem foldl_deliver_same (b : Mailbox) (es : List Event) :
    (es.foldl deliver b).capacity = b.capacity ∧ (es.foldl deliver b).abandoned = b.abandoned := by
  induction es generalizing b with
  | nil => exact ⟨rfl, rfl⟩
  | cons e es ih =>
    have hfirst : (b.deliver e).capacity = b.capacity ∧ (b.deliver e).abandoned = b.abandoned := by
      unfold deliver
      split <;> exact ⟨rfl, rfl⟩
    rw [List.foldl_cons, (ih _).1, (ih _).2]
    exact hfirst

/-- What waits behind what waited before is what found room. -/
theorem waiting_foldl (hhere : b.abandoned = false) (es : List Event) :
    (es.foldl deliver b).waiting = b.waiting ++ admitted b.capacity (b.moments es) := by
  induction es generalizing b with
  | nil => exact (List.append_nil _).symm
  | cons e es ih =>
    rw [List.foldl_cons, moments]
    rcases Nat.lt_or_ge b.waiting.length b.capacity with hroom | hfull
    · rw [deliver_of_room hhere hroom, ih (b := { b with waiting := b.waiting ++ [e] }) hhere]
      simp [admitted, hroom]
    · rw [deliver_of_full hfull, ih hhere]
      simp [admitted, Nat.not_lt.mpr hfull]

/-- Where there is room for all of them, all of them wait. -/
theorem admitted_moments_of_room {es : List Event} (hhere : b.abandoned = false)
    (hroom : b.waiting.length + es.length ≤ b.capacity) :
    admitted b.capacity (b.moments es) = es := by
  induction es generalizing b with
  | nil => rfl
  | cons e es ih =>
    rw [List.length_cons] at hroom
    have hfirst : b.waiting.length < b.capacity := by omega
    have hrest := ih (b := { b with waiting := b.waiting ++ [e] }) hhere <| by
      rw [List.length_append, List.length_singleton, Nat.add_assoc, Nat.add_comm 1]
      exact hroom
    rw [moments, deliver_of_room hhere hfirst]
    simpa [admitted, hfirst] using hrest

theorem waiting_foldl_empty {es : List Event} {capacity : Nat} (hroom : es.length ≤ capacity) :
    (es.foldl deliver (empty capacity)).waiting = es := by
  have hall : (empty capacity).waiting.length + es.length ≤ (empty capacity).capacity := by
    rw [Nat.add_comm]
    exact hroom
  rw [waiting_foldl rfl, admitted_moments_of_room rfl hall]
  rfl

/-- A mailbox that has room left has lost nothing. -/
theorem waiting_foldl_of_room {es : List Event} (hhere : b.abandoned = false)
    (hroom : (es.foldl deliver b).waiting.length < b.capacity) :
    (es.foldl deliver b).waiting = b.waiting ++ es := by
  induction es generalizing b with
  | nil => exact (List.append_nil _).symm
  | cons e es ih =>
    have hfirst : b.waiting.length < b.capacity := by
      rw [waiting_foldl hhere, List.length_append] at hroom
      omega
    rw [List.foldl_cons, deliver_of_room hhere hfirst] at hroom ⊢
    rw [ih (b := { b with waiting := b.waiting ++ [e] }) hhere hroom, List.append_assoc,
      List.singleton_append]

end Mailbox

/-- A reader gets what it is due: it has taken some of it, and the rest waits unless the reader
    has left. -/
structure Mailbox.Serves (b : Mailbox) (capacity : Nat) (obtained due : List Event) : Prop where
  room : b.capacity = capacity
  got : obtained <+: due
  gets : b.abandoned = false → obtained ++ b.waiting = due
  gone : b.abandoned = true → b.waiting = []

namespace Mailbox.Serves

variable {b : Mailbox} {capacity : Nat} {obtained due : List Event}

theorem of_empty (capacity : Nat) : (Mailbox.empty capacity).Serves capacity [] [] :=
  ⟨rfl, List.nil_prefix, fun _ => rfl, fun _ => rfl⟩

theorem deliver (h : b.Serves capacity obtained due) (es : List Event) :
    (es.foldl Mailbox.deliver b).Serves capacity obtained
      (due ++ admitted capacity (b.moments es)) := by
  obtain ⟨hroom, hleft⟩ := b.foldl_deliver_same es
  have hgot := h.got.trans (List.prefix_append due (admitted capacity (b.moments es)))
  refine ⟨hroom.trans h.room, hgot, fun hhere => ?_, fun hgone => ?_⟩
  · rw [hleft] at hhere
    rw [waiting_foldl hhere, ← List.append_assoc, h.gets hhere, h.room]
  · rw [hleft] at hgone
    rw [foldl_deliver_of_abandoned hgone]
    exact h.gone hgone

/-- What is taken was waiting, so the reader has not left. -/
theorem take {e : Event} {b' : Mailbox} (h : b.Serves capacity obtained due)
    (htake : b.take? = some (e, b')) : b'.Serves capacity (obtained ++ [e]) due := by
  unfold take? at htake
  split at htake
  · cases htake
  · rename_i rest hwaiting
    cases htake
    have hhere : b.abandoned = false := by
      cases habandoned : b.abandoned with
      | false => rfl
      | true => exact absurd (hwaiting.symm.trans (h.gone habandoned)) (by simp)
    have hdue : (obtained ++ [e]) ++ rest = due := by
      rw [← h.gets hhere, hwaiting, List.append_assoc, List.singleton_append]
    refine ⟨h.room, ⟨rest, hdue⟩, fun _ => hdue, fun hgone => ?_⟩
    cases hhere.symm.trans hgone

theorem drain (h : b.Serves capacity obtained due) :
    b.drain.2.Serves capacity (obtained ++ b.drain.1) due := by
  refine ⟨h.room, ?_, fun hhere => (List.append_nil _).trans (h.gets hhere), fun _ => rfl⟩
  cases habandoned : b.abandoned with
  | false => exact ⟨[], (List.append_nil _).trans (h.gets habandoned)⟩
  | true =>
    rw [Mailbox.drain, h.gone habandoned, List.append_nil]
    exact h.got

theorem abandon (h : b.Serves capacity obtained due) : b.abandon.Serves capacity obtained due :=
  ⟨h.room, h.got, fun hhere => absurd hhere (by simp [Mailbox.abandon]), fun _ => rfl⟩

end Mailbox.Serves

end RespLink
