import RespLink.Hub.Step

/-!
# Drives — what the two locks are held for

A drive that holds the writer has a command to send, and one that holds the reader has a command
whose reply it reads. A hub says only who holds a lock, and a drive only where it is; that the
two agree (`Placed`) is what makes "the command in hand" one command at most.

Everything is said of the fields that it is about and not of a hub, so that a step which leaves
those alone needs no argument.
-/

namespace RespLink

/-! ## Lists that grow or change in one place -/

theorem getElem?_concat_of_ne {α : Type} {l : List α} {a : α} {k : Nat} (h : k ≠ l.length) :
    (l ++ [a])[k]? = l[k]? := by
  rw [List.getElem?_append]
  split
  · rfl
  · rw [List.getElem?_eq_none (by simp; omega), List.getElem?_eq_none (by omega)]

theorem getElem?_concat_cases {α : Type} {l : List α} {a b : α} {k : Nat}
    (h : (l ++ [a])[k]? = some b) : l[k]? = some b ∨ k = l.length ∧ b = a := by
  by_cases hk : k = l.length
  · subst hk
    rw [List.getElem?_concat_length, Option.some.injEq] at h
    exact Or.inr ⟨rfl, h.symm⟩
  · rw [getElem?_concat_of_ne hk] at h
    exact Or.inl h

theorem getElem?_set_cases {α : Type} {l : List α} {a b : α} {j k : Nat}
    (h : (l.set j a)[k]? = some b) : k = j ∧ b = a ∨ k ≠ j ∧ l[k]? = some b := by
  by_cases hk : k = j
  · subst hk
    obtain ⟨hlt, hb⟩ := List.getElem?_eq_some_iff.mp h
    rw [List.getElem_set_self] at hb
    exact Or.inl ⟨rfl, hb.symm⟩
  · rw [List.getElem?_set_ne (Ne.symm hk)] at h
    exact Or.inr ⟨hk, h⟩

/-- A count after one entry was exchanged for another. -/
theorem countP_set_add {α : Type} {l : List α} {j : Nat} {a : α} (hj : l[j]? = some a)
    (counted : α → Bool) (b : α) :
    (l.set j b).countP counted + (if counted a then 1 else 0)
      = l.countP counted + (if counted b then 1 else 0) := by
  obtain ⟨hlt, rfl⟩ := List.getElem?_eq_some_iff.mp hj
  -- the entry was counted before it was exchanged, if it was
  have hle : (if counted l[j] then 1 else 0) ≤ l.countP counted := by
    split
    · rename_i hcounted
      exact List.countP_pos_iff.mpr ⟨l[j], List.getElem_mem hlt, hcounted⟩
    · exact Nat.zero_le _
  rw [List.countP_set hlt]
  omega

/-! ## Where drives are -/

namespace DrivePhase

/-- The command that a drive has taken off the unanswered ones and whose reply it is to read. -/
def inHand? : DrivePhase → Option Ticket
  | .reading t => some t
  | .failing _ _ owed => owed.map Prod.fst
  | _ => none

/-- What a drive has still to send of the command that it took. -/
def unsent : DrivePhase → Bytes
  | .writing slices => slices.flatten
  | _ => []

/-- Whether a drive has the writer. -/
def writes : DrivePhase → Bool
  | .choosing _ | .writing _ => true
  | _ => false

/-- Whether a drive has the reader. -/
def reads : DrivePhase → Bool
  | .matching | .reading _ => true
  | .failing _ _ owed => owed.isSome
  | _ => false

/-- Whether a drive has found the stream up. -/
def begun : DrivePhase → Bool
  | .starting _ => false
  | _ => true

/-- Whether a drive has not tainted the hub yet. -/
def harmless : DrivePhase → Bool
  | .failing stage _ _ => stage = .taint
  | _ => true

end DrivePhase

/-- Where drive `j` may be, as long as nobody has tainted the hub. -/
structure DrivePhase.Fits (link : Link) (writer reader : Option Nat) (j : Nat) (p : DrivePhase) :
    Prop where
  writes : p.writes → writer = some j
  reads : p.reads → reader = some j
  begun : p.begun → link = .up
  harmless : p.harmless

namespace DrivePhase.Fits

variable {link : Link} {writer reader : Option Nat} {j : Nat} {p : DrivePhase}

/-- A drive that has begun and holds no lock may be anywhere where it needs none. -/
theorem unlocked (hwrites : p.writes = false) (hreads : p.reads = false) (hup : link = .up)
    (hp : p.harmless) : p.Fits link writer reader j where
  writes h := absurd h (by simp [hwrites])
  reads h := absurd h (by simp [hreads])
  begun _ := hup
  harmless := hp

theorem writing (hwriter : writer = some j) (hreads : p.reads = false) (hup : link = .up)
    (hp : p.harmless) : p.Fits link writer reader j where
  writes _ := hwriter
  reads h := absurd h (by simp [hreads])
  begun _ := hup
  harmless := hp

theorem reading (hwrites : p.writes = false) (hreader : reader = some j) (hup : link = .up)
    (hp : p.harmless) : p.Fits link writer reader j where
  writes h := absurd h (by simp [hwrites])
  reads _ := hreader
  begun _ := hup
  harmless := hp

end DrivePhase.Fits

namespace Hub

/-- Every drive is where the locks and the link allow it to be. -/
def Placed (link : Link) (writer reader : Option Nat) (drives : List DrivePhase) : Prop :=
  ∀ j (p : DrivePhase), drives[j]? = some p → p.Fits link writer reader j

/-- The drive that holds a lock. -/
def holder? (drives : List DrivePhase) (lock : Option Nat) : Option DrivePhase :=
  lock.bind (drives[·]?)

/-- The command that the holder of the reader has in hand. -/
def inHand (reader : Option Nat) (drives : List DrivePhase) : List Ticket :=
  ((holder? drives reader).bind DrivePhase.inHand?).toList

/-- What the holder of the writer has still to send. -/
def unsent (writer : Option Nat) (drives : List DrivePhase) : Bytes :=
  ((holder? drives writer).map DrivePhase.unsent).getD []

variable {link : Link} {writer reader lock : Option Nat} {drives : List DrivePhase} {j : Nat}
  {p p' : DrivePhase}

/-! ## Who holds a lock -/

theorem holder?_set_self (h : drives[j]? = some p) :
    holder? (drives.set j p') (some j) = some p' := by
  obtain ⟨hlt, -⟩ := List.getElem?_eq_some_iff.mp h
  simp [holder?, hlt]

theorem holder?_set_other (h : lock ≠ some j) :
    holder? (drives.set j p') lock = holder? drives lock := by
  cases lock with
  | none => rfl
  | some k => exact List.getElem?_set_ne fun hjk => h (congrArg some hjk.symm)

/-- A drive that moves on without changing what it has in hand changes nobody's. -/
theorem inHand_set (h : drives[j]? = some p) (hp : p'.inHand? = p.inHand?) :
    inHand reader (drives.set j p') = inHand reader drives := by
  by_cases hj : reader = some j
  · have hold : holder? drives (some j) = some p := h
    rw [hj, inHand, inHand, holder?_set_self h, hold, Option.bind_some, Option.bind_some, hp]
  · rw [inHand, inHand, holder?_set_other hj]

theorem unsent_set (h : drives[j]? = some p) (hp : p'.unsent = p.unsent) :
    unsent writer (drives.set j p') = unsent writer drives := by
  by_cases hj : writer = some j
  · have hold : holder? drives (some j) = some p := h
    rw [hj, unsent, unsent, holder?_set_self h, hold, Option.map_some, Option.map_some, hp]
  · rw [unsent, unsent, holder?_set_other hj]

theorem inHand_of_holder (h : drives[j]? = some p) : inHand (some j) drives = p.inHand?.toList := by
  have hold : holder? drives (some j) = some p := h
  rw [inHand, hold, Option.bind_some]

theorem unsent_of_holder (h : drives[j]? = some p) : unsent (some j) drives = p.unsent := by
  have hold : holder? drives (some j) = some p := h
  rw [unsent, hold, Option.map_some, Option.getD_some]

/-- The holder of a lock moves on. -/
theorem inHand_set_self (h : drives[j]? = some p) :
    inHand (some j) (drives.set j p') = p'.inHand?.toList := by
  rw [inHand, holder?_set_self h, Option.bind_some]

theorem unsent_set_self (h : drives[j]? = some p) :
    unsent (some j) (drives.set j p') = p'.unsent := by
  rw [unsent, holder?_set_self h, Option.map_some, Option.getD_some]

/-- Where no drive has anything to send, nor has the holder of the writer. -/
theorem unsent_eq_nil (h : ∀ (k : Nat) (p : DrivePhase), drives[k]? = some p → p.unsent = []) :
    unsent writer drives = [] := by
  cases writer with
  | none => rfl
  | some k =>
    cases hk : drives[k]? with
    | none => simp [unsent, holder?, hk]
    | some p => rw [unsent_of_holder hk, h k p hk]

/-- A drive that has just been started holds nothing. -/
theorem holder?_append_starting (lock : Option Nat) (buffer : Bytes) :
    holder? (drives ++ [.starting buffer]) lock = holder? drives lock ∨
    holder? drives lock = none ∧
      holder? (drives ++ [.starting buffer]) lock = some (.starting buffer) := by
  cases lock with
  | none => exact Or.inl rfl
  | some k =>
    simp only [holder?, Option.bind_some]
    by_cases hk : k = drives.length
    · subst hk
      exact Or.inr ⟨by simp, by simp⟩
    · exact Or.inl (getElem?_concat_of_ne hk)

theorem inHand_append_starting (buffer : Bytes) :
    inHand reader (drives ++ [.starting buffer]) = inHand reader drives := by
  rcases holder?_append_starting reader buffer with h | ⟨hnone, hnew⟩
  · rw [inHand, inHand, h]
  · rw [inHand, inHand, hnone, hnew]
    rfl

theorem unsent_append_starting (buffer : Bytes) :
    unsent writer (drives ++ [.starting buffer]) = unsent writer drives := by
  rcases holder?_append_starting writer buffer with h | ⟨hnone, hnew⟩
  · rw [unsent, unsent, h]
  · rw [unsent, unsent, hnone, hnew]
    rfl

/-! ## Giving and taking locks -/

/-- Where `j` held a lock nobody else did. -/
theorem held_only_by {lock' : Option Nat} (h : lock = some j) (k : Nat) (hk : k ≠ j)
    (hlock : lock = some k) : lock' = some k := by
  rw [h, Option.some.injEq] at hlock
  exact absurd hlock.symm hk

/-- Nobody held a lock that was free. -/
theorem held_by_nobody {lock' : Option Nat} (h : lock = none) (k : Nat) (_ : k ≠ j)
    (hlock : lock = some k) : lock' = some k := by
  rw [h] at hlock
  cases hlock

namespace Placed

/-- A drive moves on, and the locks change at most in what they say of that drive. -/
theorem set {writer' reader' : Option Nat} (h : Placed link writer reader drives)
    (hp : p.Fits link writer' reader' j) (hw : ∀ k, k ≠ j → writer = some k → writer' = some k)
    (hr : ∀ k, k ≠ j → reader = some k → reader' = some k) :
    Placed link writer' reader' (drives.set j p) := by
  intro k q hk
  rcases getElem?_set_cases hk with ⟨rfl, rfl⟩ | ⟨hkj, hk⟩
  · exact hp
  · have hfits := h k q hk
    exact ⟨fun hq => hw k hkj (hfits.writes hq), fun hq => hr k hkj (hfits.reads hq), hfits.begun,
      hfits.harmless⟩

/-- Before the stream is up no drive has begun, so it does not matter who opens the stream. -/
theorem relink {link' : Link} (h : Placed link writer reader drives) (hlink : link ≠ .up) :
    Placed link' writer reader drives := by
  intro k q hk
  have hfits := h k q hk
  exact ⟨hfits.writes, hfits.reads, fun hq => absurd (hfits.begun hq) hlink, hfits.harmless⟩

theorem append_starting (h : Placed link writer reader drives) (buffer : Bytes) :
    Placed link writer reader (drives ++ [.starting buffer]) := by
  intro k q hk
  rcases getElem?_concat_cases hk with hk | ⟨-, rfl⟩
  · exact h k q hk
  · exact
      { writes := by intro h; cases h
        reads := by intro h; cases h
        begun := by intro h; cases h
        harmless := rfl }

end Placed

end Hub

end RespLink
