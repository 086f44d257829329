import Mathlib.Data.List.Nodup
import RespLink.Hub.Pool
import RespLink.Proofs.Hub.Drives

/-!
# Shares — what everybody has of a pool

A permit is got first and given back last, and the buffer taken and put back in between. So at any
moment a borrower has nothing, a permit alone, both, or a permit whose buffer is back already, and
with each of its steps it exchanges one such *share* for another (`Deals`). Somebody in line has a
share too, though nothing has to be given back for it but perhaps a permit that was granted there.

Two things are kept by every exchange. Permits and buffers add up to what there was in the
beginning (`Tally`), and the pool remembers nobody who does not wait (`Lined`): a permit that is
granted to somebody who has gone would be lost. Together they are `Lends`. That a buffer is found
wherever there is a permit for it follows from the two sums: of those who have a permit, some have
no buffer, and nobody has a buffer without a permit.
-/

namespace RespLink

namespace Pool

/-- What a borrower has of a pool. -/
inductive Share where
  | nothing
  /-- A place in line, or a permit granted there that has not been noticed. -/
  | place
  | permit
  /-- A buffer, and the permit for it. -/
  | buffer
  /-- The permit for a buffer that has been put back. -/
  | returned
  deriving DecidableEq, Repr

namespace Share

def hasPermit : Share → Bool
  | .permit | .buffer | .returned => true
  | .nothing | .place => false

def hasBuffer : Share → Bool
  | .buffer => true
  | _ => false

end Share

/-- What somebody has who was given an answer. -/
def Claim.share : Claim → Share
  | .permitted => .permit
  | .wait => .place
  | .turnedAway => .nothing

/-- Everybody who stands in line or was granted a permit there. -/
def waiting (p : Pool) : List Nat := p.line ++ p.granted

/-- What a step of a borrower makes of its share and of the pool. -/
inductive Deals (p : Pool) (who : Nat) : Share → Share → Pool → Prop
  | rests (s : Share) : Deals p who s s p
  | joins : Deals p who .nothing .place { p with line := p.line ++ [who] }
  | claims : 0 < p.permits → Deals p who .nothing .permit { p with permits := p.permits - 1 }
  | notices : who ∈ p.granted →
    Deals p who .place .permit { p with granted := p.granted.erase who }
  | withdraws : Deals p who .place .nothing (p.withdraw who)
  | takes : Deals p who .permit .buffer p.takeBuffer.2
  | puts : Deals p who .buffer .returned p.putBuffer
  | returns : Deals p who .returned .nothing p.giveBack
  | drops : Deals p who .buffer .nothing p.putBuffer.giveBack

variable {p p' : Pool} {who i j count : Nat} {a b : Share}
  {shares shares' borrowers others : List Share}

theorem deals_ask (p : Pool) (who : Nat) :
    p.Deals who .nothing (p.ask who).1.share (p.ask who).2 := by
  unfold ask
  split
  · exact .rests .nothing
  · split
    · rename_i hfree
      exact .claims hfree
    · exact .joins

theorem deals_look (p : Pool) (who : Nat) :
    p.Deals who .place (p.look who).1.share (p.look who).2 := by
  unfold look
  split
  · exact .withdraws
  · split
    · rename_i hgranted
      exact .notices hgranted
    · exact .rests .place

/-! ## Giving back and going away -/

theorem permits_giveBack (p : Pool) :
    p.giveBack.permits + p.giveBack.granted.length = p.permits + p.granted.length + 1 := by
  unfold giveBack
  split
  · exact Nat.add_right_comm _ _ _
  · rw [List.length_append, List.length_singleton, Nat.add_assoc]

@[simp] theorem shelf_giveBack (p : Pool) : p.giveBack.shelf = p.shelf := by
  unfold giveBack
  split <;> rfl

theorem waiting_giveBack (p : Pool) : p.giveBack.waiting.Perm p.waiting := by
  unfold giveBack
  split
  · exact .refl _
  · rename_i who rest hline
    rw [waiting, waiting, hline, ← List.append_assoc]
    exact List.perm_append_singleton _ _

theorem permits_withdraw (p : Pool) (who : Nat) :
    (p.withdraw who).permits + (p.withdraw who).granted.length = p.permits + p.granted.length := by
  unfold withdraw
  split
  · rename_i hgranted
    rw [permits_giveBack, List.length_erase_of_mem hgranted]
    have hpos := List.length_pos_of_mem hgranted
    dsimp only
    omega
  · rfl

@[simp] theorem shelf_withdraw (p : Pool) (who : Nat) : (p.withdraw who).shelf = p.shelf := by
  unfold withdraw
  split
  · exact shelf_giveBack _
  · rfl

theorem waiting_erase_granted (hgranted : who ∈ p.granted) :
    ({ p with granted := p.granted.erase who } : Pool).waiting.Perm (p.waiting.erase who) := by
  have hcons : p.waiting.Perm (who :: (p.line ++ p.granted.erase who)) :=
    ((List.perm_cons_erase hgranted).append_left _).trans List.perm_middle
  have herase := hcons.erase who
  rw [List.erase_cons_head] at herase
  exact herase.symm

theorem waiting_withdraw (p : Pool) (who : Nat) :
    (p.withdraw who).waiting.Perm (p.waiting.erase who) := by
  unfold withdraw
  split
  · rename_i hgranted
    exact (waiting_giveBack _).trans (waiting_erase_granted hgranted)
  · rename_i hgranted
    rw [waiting, waiting, List.erase_append]
    split
    · exact .refl _
    · rename_i hline
      rw [List.erase_of_not_mem hline, List.erase_of_not_mem hgranted]

/-! ## What an exchange changes -/

theorem takeBuffer_cons {buffer : Bytes} {rest : List Bytes} (hshelf : p.shelf = buffer :: rest) :
    p.takeBuffer = ([], { p with shelf := rest }) := by
  simp [takeBuffer, hshelf]

namespace Deals

/-- Free permits, those granted and not noticed, and the borrower's own. -/
theorem permits (hdeals : p.Deals who a b p') :
    p'.permits + p'.granted.length + (if b.hasPermit then 1 else 0)
      = p.permits + p.granted.length + (if a.hasPermit then 1 else 0) := by
  cases hdeals with
  | claims hfree =>
    simp only [Share.hasPermit, if_true, Bool.false_eq_true, if_false]
    omega
  | notices hgranted =>
    have hpos := List.length_pos_of_mem hgranted
    simp only [Share.hasPermit, if_true, Bool.false_eq_true, if_false,
      List.length_erase_of_mem hgranted]
    omega
  | withdraws => exact permits_withdraw p who
  | takes => unfold takeBuffer; split <;> rfl
  | returns => exact permits_giveBack p
  | drops => exact permits_giveBack p.putBuffer
  | _ => rfl

/-- Buffers on the shelf, and the borrower's own. -/
theorem buffers (hdeals : p.Deals who a b p') (hfinds : a = .permit → p.shelf ≠ []) :
    p'.shelf.length + (if b.hasBuffer then 1 else 0)
      = p.shelf.length + (if a.hasBuffer then 1 else 0) := by
  cases hdeals with
  | withdraws => rw [shelf_withdraw]; rfl
  | takes =>
    obtain ⟨buffer, rest, hshelf⟩ := List.exists_cons_of_ne_nil (hfinds rfl)
    rw [takeBuffer_cons hshelf, hshelf]
    rfl
  | returns => rw [shelf_giveBack]; rfl
  | drops => rw [shelf_giveBack]; rfl
  | _ => rfl

/-- What is put on the shelf is empty. -/
theorem mem_shelf {buffer : Bytes} (hdeals : p.Deals who a b p') (hmem : buffer ∈ p'.shelf) :
    buffer ∈ p.shelf ∨ buffer = [] := by
  cases hdeals with
  | withdraws =>
    rw [shelf_withdraw] at hmem
    exact Or.inl hmem
  | takes =>
    cases hshelf : p.shelf with
    | nil => simp [takeBuffer, hshelf] at hmem
    | cons first rest =>
      rw [takeBuffer_cons hshelf] at hmem
      exact Or.inl (List.mem_cons_of_mem _ hmem)
  | puts => exact (List.mem_cons.mp hmem).symm
  | returns =>
    rw [shelf_giveBack] at hmem
    exact Or.inl hmem
  | drops =>
    rw [shelf_giveBack] at hmem
    exact (List.mem_cons.mp hmem).symm
  | _ => exact Or.inl hmem

/-- Somebody who does not wait, and will not, leaves those who do as they are. -/
theorem waiting (hdeals : p.Deals who a b p') (ha : a ≠ .place) (hb : b ≠ .place) :
    p'.waiting.Perm p.waiting := by
  cases hdeals with
  | joins => exact absurd rfl hb
  | notices | withdraws => exact absurd rfl ha
  | takes =>
    unfold takeBuffer
    split <;> exact .refl _
  | returns => exact waiting_giveBack p
  | drops => exact waiting_giveBack p.putBuffer
  | _ => exact .refl _

/-- Somebody who ceases to wait is not remembered. -/
theorem waiting_erase (hdeals : p.Deals who .place b p') (hb : b ≠ .place) :
    p'.waiting.Perm (p.waiting.erase who) := by
  cases hdeals with
  | rests => exact absurd rfl hb
  | notices hgranted => exact waiting_erase_granted hgranted
  | withdraws => exact waiting_withdraw p who

/-- Somebody who begins to wait comes in addition. -/
theorem waiting_cons (hdeals : p.Deals who a .place p') (ha : a ≠ .place) :
    p'.waiting.Perm (who :: p.waiting) := by
  cases hdeals with
  | rests => exact absurd rfl ha
  | joins =>
    rw [Pool.waiting, List.append_assoc]
    exact List.perm_middle

end Deals

/-! ## Sums -/

/-- What is left of so many permits and buffers, where `shares` is what everybody has. -/
structure Tally (p : Pool) (count : Nat) (shares : List Share) : Prop where
  permits : p.permits + p.granted.length + shares.countP Share.hasPermit = count
  buffers : p.shelf.length + shares.countP Share.hasBuffer = count
  empty : ∀ buffer ∈ p.shelf, buffer = []

/-- Who has a permit has its buffer, or not yet, or no more. -/
theorem countP_hasPermit (shares : List Share) :
    shares.countP Share.hasPermit
      = shares.count .permit + shares.countP Share.hasBuffer + shares.count .returned := by
  induction shares with
  | nil => rfl
  | cons s shares ih =>
    rw [List.countP_cons, List.countP_cons, List.count_cons, List.count_cons, ih]
    cases s <;> simp [Share.hasPermit, Share.hasBuffer] <;> omega

namespace Tally

theorem start (capacity count : Nat) : (Pool.start capacity count).Tally count [] where
  permits := rfl
  buffers := List.length_replicate
  empty _ hbuffer := (List.mem_replicate.mp hbuffer).2

theorem shelf_le (ht : p.Tally count shares) : p.shelf.length ≤ count := by
  rw [← ht.buffers]
  exact Nat.le_add_right _ _

theorem permits_le (ht : p.Tally count shares) : p.permits ≤ p.shelf.length := by
  have hpermits := ht.permits
  have hbuffers := ht.buffers
  have hhas := countP_hasPermit shares
  omega

/-- Who has a permit and no buffer finds an empty one. -/
theorem exists_shelf (ht : p.Tally count shares) (hpermit : .permit ∈ shares) :
    ∃ rest, p.shelf = [] :: rest := by
  have hpermits := ht.permits
  have hbuffers := ht.buffers
  have hhas := countP_hasPermit shares
  have hsome := List.count_pos_iff.mpr hpermit
  cases hshelf : p.shelf with
  | nil =>
    rw [hshelf, List.length_nil] at hbuffers
    omega
  | cons buffer rest =>
    have hempty : buffer = [] := ht.empty buffer (by simp [hshelf])
    exact ⟨rest, by rw [hempty]⟩

/-- Somebody exchanges `a` for `b`. -/
theorem deals (ht : p.Tally count shares) (hdeals : p.Deals who a b p') (ha : a ∈ shares)
    (hshares : ∀ counted : Share → Bool, shares'.countP counted + (if counted a then 1 else 0)
      = shares.countP counted + (if counted b then 1 else 0)) : p'.Tally count shares' := by
  have hfinds : a = .permit → p.shelf ≠ [] := by
    rintro rfl
    obtain ⟨rest, hshelf⟩ := ht.exists_shelf ha
    simp [hshelf]
  refine ⟨?_, ?_, ?_⟩
  · have hold := ht.permits
    have hpool := hdeals.permits
    have hborrowers := hshares Share.hasPermit
    omega
  · have hold := ht.buffers
    have hpool := hdeals.buffers hfinds
    have hborrowers := hshares Share.hasBuffer
    omega
  · intro buffer hbuffer
    rcases hdeals.mem_shelf hbuffer with hold | hnew
    · exact ht.empty buffer hold
    · exact hnew

end Tally

/-! ## Those who wait -/

/-- Whom the pool remembers waits, and is remembered once. -/
structure Lined (p : Pool) (borrowers : List Share) : Prop where
  once : p.waiting.Nodup
  waits : ∀ who ∈ p.waiting, borrowers[who]? = some .place

namespace Lined

/-- Borrower `i` moves on that the pool does not remember. -/
theorem forgotten (hl : p.Lined borrowers) (hperm : p'.waiting.Perm (p.waiting.erase i))
    (b : Share) : p'.Lined (borrowers.set i b) := by
  refine ⟨hperm.symm.nodup (hl.once.erase i), ?_⟩
  intro who hwho
  have hwho' := (hl.once.mem_erase_iff).mp (hperm.mem_iff.mp hwho)
  rw [List.getElem?_set_ne (Ne.symm hwho'.1)]
  exact hl.waits who hwho'.2

theorem deals (hl : p.Lined borrowers) (hi : borrowers[i]? = some a)
    (hdeals : p.Deals i a b p') : p'.Lined (borrowers.set i b) := by
  by_cases ha : a = .place
  · subst ha
    by_cases hb : b = .place
    · subst hb
      cases hdeals
      have hsame : borrowers.set i .place = borrowers := by
        obtain ⟨hlt, hi⟩ := List.getElem?_eq_some_iff.mp hi
        rw [← hi, List.set_getElem_self]
      rw [hsame]
      exact hl
    · exact hl.forgotten (hdeals.waiting_erase hb) b
  · have hnot : i ∉ p.waiting := fun hwaits =>
      ha (Option.some.inj (hi.symm.trans (hl.waits i hwaits)))
    by_cases hb : b = .place
    · subst hb
      have hperm := hdeals.waiting_cons ha
      refine ⟨hperm.symm.nodup (List.nodup_cons.mpr ⟨hnot, hl.once⟩), ?_⟩
      intro who hwho
      rcases List.mem_cons.mp (hperm.mem_iff.mp hwho) with rfl | hwho
      · exact List.getElem?_set_self (List.getElem?_eq_some_iff.mp hi).1
      · have hne : i ≠ who := by
          rintro rfl
          exact hnot hwho
        rw [List.getElem?_set_ne hne]
        exact hl.waits who hwho
    · refine hl.forgotten ?_ b
      rw [List.erase_of_not_mem hnot]
      exact hdeals.waiting ha hb

end Lined

/-! ## Lending -/

/-- A pool of so many buffers lends them to `borrowers`, who may wait for them, and to `others`, who
    do not. -/
structure Lends (p : Pool) (count : Nat) (borrowers others : List Share) : Prop where
  tally : p.Tally count (borrowers ++ others)
  lined : p.Lined borrowers

namespace Lends

theorem start (capacity count : Nat) : (Pool.start capacity count).Lends count [] [] where
  tally := .start capacity count
  lined := ⟨List.nodup_nil, fun _ hwho => absurd hwho List.not_mem_nil⟩

/-- Somebody comes who has nothing. -/
theorem enter (hl : p.Lends count borrowers others) :
    p.Lends count (borrowers ++ [.nothing]) others := by
  obtain ⟨⟨hpermits, hbuffers, hempty⟩, honce, hwaits⟩ := hl
  refine ⟨⟨?_, ?_, hempty⟩, honce, ?_⟩
  · simpa [List.countP_append, Share.hasPermit] using hpermits
  · simpa [List.countP_append, Share.hasBuffer] using hbuffers
  · intro who hwho
    have hold := hwaits who hwho
    rw [List.getElem?_append_left (List.getElem?_eq_some_iff.mp hold).1]
    exact hold

theorem borrower (hl : p.Lends count borrowers others) (hi : borrowers[i]? = some a)
    (hdeals : p.Deals i a b p') : p'.Lends count (borrowers.set i b) others := by
  refine ⟨hl.tally.deals hdeals ?_ ?_, hl.lined.deals hi hdeals⟩
  · exact List.mem_append_left _ (List.mem_of_getElem? hi)
  · intro counted
    have hset := countP_set_add hi counted b
    rw [List.countP_append, List.countP_append]
    omega

/-- Somebody comes and makes its first exchange at once. -/
theorem comes (hl : p.Lends count borrowers others)
    (hdeals : p.Deals borrowers.length .nothing b p') :
    p'.Lends count (borrowers ++ [b]) others := by
  have hlent := hl.enter.borrower List.getElem?_concat_length hdeals
  rwa [List.set_append_right _ _ (Nat.le_refl _), Nat.sub_self, List.set_cons_zero] at hlent

theorem other (hl : p.Lends count borrowers others) (hj : others[j]? = some a)
    (hdeals : p.Deals who a b p') (ha : a ≠ .place) (hb : b ≠ .place) :
    p'.Lends count borrowers (others.set j b) := by
  have hperm := hdeals.waiting ha hb
  refine ⟨hl.tally.deals hdeals ?_ ?_, hperm.symm.nodup hl.lined.once, ?_⟩
  · exact List.mem_append_right _ (List.mem_of_getElem? hj)
  · intro counted
    have hset := countP_set_add hj counted b
    rw [List.countP_append, List.countP_append]
    omega
  · exact fun who hwho => hl.lined.waits who (hperm.mem_iff.mp hwho)

/-- A borrower hands its buffer on. -/
theorem handsOn (hl : p.Lends count borrowers others) (hi : borrowers[i]? = some .buffer) :
    p.Lends count (borrowers.set i .nothing) (others ++ [Share.buffer]) := by
  have hcount (counted : Share → Bool) (hnothing : counted .nothing = false) :
      (borrowers.set i .nothing ++ (others ++ [Share.buffer])).countP counted
        = (borrowers ++ others).countP counted := by
    have hset := countP_set_add hi counted .nothing
    rw [hnothing] at hset
    simp only [List.countP_append, List.countP_singleton]
    simp only [Bool.false_eq_true, if_false] at hset
    omega
  obtain ⟨⟨hpermits, hbuffers, hempty⟩, hlined⟩ := hl
  refine ⟨⟨?_, ?_, hempty⟩, hlined.once, ?_⟩
  · rw [hcount Share.hasPermit rfl]
    exact hpermits
  · rw [hcount Share.hasBuffer rfl]
    exact hbuffers
  · intro who hwho
    have hold := hlined.waits who hwho
    have hne : i ≠ who := by
      rintro rfl
      cases hi.symm.trans hold
    rw [List.getElem?_set_ne hne]
    exact hold

theorem close (hl : p.Lends count borrowers others) : p.close.Lends count borrowers others := by
  refine ⟨⟨hl.tally.permits, hl.tally.buffers, hl.tally.empty⟩, ?_, ?_⟩
  · exact (List.nodup_append.mp hl.lined.once).2.1
  · exact fun who hwho => hl.lined.waits who (List.mem_append_right _ hwho)

end Lends

/-- How a pool of so many buffers stands, where `shares` is what everybody has. -/
structure Conserved (p : Pool) (count : Nat) (shares : List Share) : Prop where
  /-- A permit is free, or was granted and leads to a buffer, or belongs to a buffer that is lent or
      on its way back. -/
  permits : p.permits + (p.granted.length + shares.count .permit)
    + (shares.count .buffer + shares.count .returned) = count
  buffers : p.shelf.length + shares.count .buffer = count
  permits_le : p.permits ≤ p.shelf.length
  shelf_le : p.shelf.length ≤ count
  /-- No buffer has to be made for who has a permit. -/
  finds : .permit ∈ shares → ∃ rest, p.shelf = [] :: rest

theorem countP_hasBuffer (shares : List Share) :
    shares.countP Share.hasBuffer = shares.count .buffer := by
  refine List.countP_congr fun s _ => ?_
  cases s <;> simp [Share.hasBuffer]

theorem Lends.conserved (hl : p.Lends count borrowers others) :
    p.Conserved count (borrowers ++ others) := by
  have hpermits := hl.tally.permits
  have hbuffers := hl.tally.buffers
  rw [countP_hasPermit, countP_hasBuffer] at hpermits
  rw [countP_hasBuffer] at hbuffers
  exact ⟨by omega, hbuffers, hl.tally.permits_le, hl.tally.shelf_le, hl.tally.exists_shelf⟩

end Pool

end RespLink
