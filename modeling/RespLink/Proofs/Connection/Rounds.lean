import RespLink.Connection.Listening

/-!
# Rounds — listening frame by frame

Listening takes one frame after the other, and in the library it is one function that takes every
frame that is there. Whoever wants to say what happens between two frames, that somebody asks to
stop or that a receiver takes its events, needs it a round at a time.

A round of listening is an act of its own (`Connection.listenRound`), and listening is nothing but
such rounds (`Connection.listenWithin_succ`).
-/

namespace RespLink

namespace Connection

/-- One round of listening: nothing if it is the last one, or else whether a handler asked to
    stop. -/
def listenRound (stop : Stop) (asked : Bool) : Act (Option Bool) := do
  if !(← get).subscription.active then return none
  ensureUsable
  if asked then return none
  match ← nextFrame with
  | .ok r =>
    match ← applyPush r with
    | some event => return some (← observe event)
    | none => return some false
  | .error (.timeout span) =>
    if (← get).connected then
      if stop = .whenIdle then return none else throw .waiting
    else fail (.timeout span)
  | .error e => fail e

/-- Listening is a round of it and then listening, unless the round was the last. -/
theorem listenWithin_succ (stop : Stop) (fuel : Nat) (asked : Bool) :
    listenWithin stop (fuel + 1) asked = do
      match ← listenRound stop asked with
      | some asked => listenWithin stop fuel asked
      | none => return () := by
  rw [listenWithin, listenRound, bind_assoc]
  congr 1
  funext c
  split
  · rfl
  rw [bind_assoc]
  congr 1
  funext _
  split
  · rfl
  rw [bind_assoc]
  congr 1
  funext out
  cases out with
  | ok r =>
    simp only [bind_assoc]
    congr 1
    funext event
    cases event with
    | some event => simp only [bind_assoc, pure_bind]
    | none => rfl
  | error e =>
    cases e with
    | timeout span =>
      simp only [bind_assoc]
      congr 1
      funext c
      split
      · split <;> rfl
      · rfl
    | _ => rfl

end Connection

end RespLink
