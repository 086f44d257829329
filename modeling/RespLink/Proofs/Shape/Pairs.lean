import Mathlib.Data.List.Forall2
import Mathlib.Data.List.Induction
import RespLink.Proofs.Shape.Project

/-!
# Pairs — fields and values in a row, and two by two

The same fields and values can come in one flat array, from which a map is read, or each with its
value in an array of two, from which a list of pairs is read. The map is filled while the array is
read and the list is collected first, but both readers go through the replies in the same order, the
field before its value, and both stop at the first that is not what it is read as.

Two lemmas carry this: behind pairs that have been read, either reader stands where its rest begins,
with what it has got so far (`projectPairs_append`, `projectItems_append`). What is left to say is
what a map holds that entries were bound in one after the other. Its keys are those of the entries,
each once, and each has the value of the last entry with it (`Bindings.Latest`), and this stays true
as one more entry is bound (`Bindings.Latest.insert`).
-/

namespace RespLink

namespace Bindings

variable {κ ν : Type} [DecidableEq κ] {b : Bindings κ ν} {entries : List (κ × ν)}

/-- Binds entries one after the other. -/
def insertAll (b : Bindings κ ν) (entries : List (κ × ν)) : Bindings κ ν :=
  entries.foldl (fun b e => b.insert e.1 e.2) b

/-- A value is that of the last entry with a key. -/
def IsLatest (k : κ) (v : ν) (entries : List (κ × ν)) : Prop :=
  ∃ before after, entries = before ++ (k, v) :: after ∧ ∀ e ∈ after, e.1 ≠ k

/-- A map has the keys of some entries, each once and with the value of the last entry that has
    it. -/
structure Latest (b : Bindings κ ν) (entries : List (κ × ν)) : Prop where
  get? : ∀ k v, b.get? k = some v ↔ IsLatest k v entries
  keys : ∀ k, k ∈ b.entries.map Prod.fst ↔ k ∈ entries.map Prod.fst
  nodup : (b.entries.map Prod.fst).Nodup

theorem mem_keys_bind (k k' : κ) (v : ν) (entries : List (κ × ν)) :
    k' ∈ (bind k v entries).map Prod.fst ↔ k' = k ∨ k' ∈ entries.map Prod.fst := by
  induction entries with
  | nil => simp [bind]
  | cons e rest ih =>
    obtain ⟨k₀, v₀⟩ := e
    by_cases h : k₀ = k
    · subst h
      simp [bind]
    · simp only [bind, if_neg h, List.map_cons, List.mem_cons, ih]
      exact or_left_comm

theorem nodup_keys_bind (k : κ) (v : ν) (h : (entries.map Prod.fst).Nodup) :
    ((bind k v entries).map Prod.fst).Nodup := by
  induction entries with
  | nil => simp [bind]
  | cons e rest ih =>
    obtain ⟨k₀, v₀⟩ := e
    obtain ⟨hnew, hrest⟩ := List.nodup_cons.mp h
    by_cases hk : k₀ = k
    · subst hk
      simpa [bind] using h
    · rw [bind, if_neg hk, List.map_cons, List.nodup_cons]
      refine ⟨?_, ih hrest⟩
      rw [mem_keys_bind]
      rintro (heq | hmem)
      · exact hk heq
      · exact hnew hmem

/-- Once one more entry is bound, its value is the latest of its key, and no other key is
    affected. -/
theorem isLatest_concat (k k' : κ) (v v' : ν) (entries : List (κ × ν)) :
    IsLatest k' v' (entries ++ [(k, v)]) ↔
      if k = k' then v = v' else IsLatest k' v' entries := by
  constructor
  · rintro ⟨before, after, hsplit, hafter⟩
    rcases List.eq_nil_or_concat after with rfl | ⟨after, e, rfl⟩
    · obtain ⟨-, heq⟩ := List.append_inj' hsplit rfl
      cases heq
      simp
    · rw [List.concat_eq_append] at hsplit hafter
      rw [← List.cons_append, ← List.append_assoc] at hsplit
      obtain ⟨rfl, heq⟩ := List.append_inj' hsplit rfl
      cases heq
      have hne : k ≠ k' := hafter (k, v) (by simp)
      rw [if_neg hne]
      exact ⟨before, after, rfl, fun e he => hafter e (by simp [he])⟩
  · intro h
    by_cases hk : k = k'
    · subst hk
      rw [if_pos rfl] at h
      subst h
      exact ⟨entries, [], rfl, by simp⟩
    · rw [if_neg hk] at h
      obtain ⟨before, after, rfl, hafter⟩ := h
      refine ⟨before, after ++ [(k, v)], by simp, ?_⟩
      intro e he
      rcases List.mem_append.mp he with he | he
      · exact hafter e he
      · cases List.mem_singleton.mp he
        exact hk

theorem latest_empty : Latest (empty : Bindings κ ν) [] where
  get? k v := by
    constructor
    · intro h
      cases h
    · rintro ⟨before, after, hsplit, -⟩
      simp at hsplit
  keys k := Iff.rfl
  nodup := List.nodup_nil

theorem Latest.insert (h : b.Latest entries) (k : κ) (v : ν) :
    (b.insert k v).Latest (entries ++ [(k, v)]) where
  get? k' v' := by
    rw [get?_insert, isLatest_concat, ← h.get?]
    by_cases hk : k = k'
    · simp [hk]
    · simp [hk]
  keys k' := by
    rw [Bindings.insert, mem_keys_bind, h.keys]
    simp [or_comm]
  nodup := nodup_keys_bind k v h.nodup

theorem latest_insertAll (entries : List (κ × ν)) : (empty.insertAll entries).Latest entries := by
  induction entries using List.reverseRecOn with
  | nil => exact latest_empty
  | append_singleton entries e ih =>
    rw [insertAll, List.foldl_append]
    exact ih.insert e.1 e.2

end Bindings

namespace Shape

variable {key value : Shape} {before pairs : List (Reply × Reply)} {e : Error}

/-- Fields and values one after the other. -/
def inRow (pairs : List (Reply × Reply)) : List Reply := pairs.flatMap fun p => [p.1, p.2]

/-- Fields and values two by two. -/
def inPairs (pairs : List (Reply × Reply)) : List Reply := pairs.map fun p => .array [p.1, p.2]

/-- A field and its value are read as an entry. -/
def Reads (key value : Shape) (p : Reply × Reply) (entry : key.Value × value.Value) : Prop :=
  project key p.1 = .ok entry.1 ∧ project value p.2 = .ok entry.2

/-- The first among fields and values that is not what it is read as, taken in order and each field
    before its value, fails with an error. -/
inductive FailsFirst (key value : Shape) : List (Reply × Reply) → Error → Prop
  | field {before after : List (Reply × Reply)} {p : Reply × Reply} {e : Error}
      {entries : List (key.Value × value.Value)}
      (hbefore : List.Forall₂ (Reads key value) before entries)
      (hfield : project key p.1 = .error e) : FailsFirst key value (before ++ p :: after) e
  | content {before after : List (Reply × Reply)} {p : Reply × Reply} {e : Error}
      {entries : List (key.Value × value.Value)} {k : key.Value}
      (hbefore : List.Forall₂ (Reads key value) before entries)
      (hfield : project key p.1 = .ok k)
      (hcontent : project value p.2 = .error e) : FailsFirst key value (before ++ p :: after) e

theorem FailsFirst.cons {p : Reply × Reply} {entry : key.Value × value.Value}
    (hp : Reads key value p entry) (h : FailsFirst key value pairs e) :
    FailsFirst key value (p :: pairs) e := by
  cases h with
  | field hbefore hfield => exact .field (.cons hp hbefore) hfield
  | content hbefore hfield hcontent => exact .content (.cons hp hbefore) hfield hcontent

/-- Either all fields and values are read, or one of them is the first that is not. -/
theorem reads_or_failsFirst (key value : Shape) (pairs : List (Reply × Reply)) :
    (∃ entries, List.Forall₂ (Reads key value) pairs entries) ∨
      ∃ e, FailsFirst key value pairs e := by
  induction pairs with
  | nil => exact Or.inl ⟨[], .nil⟩
  | cons p rest ih =>
    cases hk : project key p.1 with
    | error e =>
      have hfails : FailsFirst key value ([] ++ p :: rest) e := .field .nil hk
      exact Or.inr ⟨e, hfails⟩
    | ok k =>
      cases hv : project value p.2 with
      | error e =>
        have hfails : FailsFirst key value ([] ++ p :: rest) e := .content .nil hk hv
        exact Or.inr ⟨e, hfails⟩
      | ok v =>
        have hp : Reads key value p (k, v) := ⟨hk, hv⟩
        rcases ih with ⟨entries, hentries⟩ | ⟨e, he⟩
        · exact Or.inl ⟨(k, v) :: entries, .cons hp hentries⟩
        · exact Or.inr ⟨e, he.cons hp⟩

/-- Behind fields and values that are read, the rest is read into the map that they are bound in. -/
theorem projectPairs_append {entries : List (key.Value × value.Value)}
    (h : List.Forall₂ (Reads key value) before entries)
    (bound : Bindings key.Value value.Value) (rest : List Reply) :
    projectPairs (project key) (project value) bound (inRow before ++ rest) =
      projectPairs (project key) (project value) (bound.insertAll entries) rest := by
  induction h generalizing bound with
  | nil => rfl
  | cons hp _ ih =>
    obtain ⟨hk, hv⟩ := hp
    simp only [inRow, List.flatMap_cons, List.cons_append, List.nil_append, projectPairs, hk, hv]
    exact ih _

/-- Behind pairs that are read, the rest is read after them. -/
theorem projectItems_append {entries : List (key.Value × value.Value)}
    (h : List.Forall₂ (Reads key value) before entries)
    (done : List (key.Value × value.Value)) (rest : List Reply) :
    projectItems (project (.pair key value)) done (inPairs before ++ rest) =
      projectItems (project (.pair key value)) (entries.reverse ++ done) rest := by
  induction h generalizing done with
  | nil => rfl
  | @cons p entry before entries hp _ ih =>
    obtain ⟨hk, hv⟩ := hp
    have hpair : project (.pair key value) (.array [p.1, p.2]) = .ok entry := by
      rw [project_pair, hk, hv]
    simp only [inPairs, List.map_cons, List.cons_append, projectItems, hpair]
    rw [List.reverse_cons, List.append_assoc]
    exact ih _

theorem projectPairs_of_failsFirst (h : FailsFirst key value pairs e)
    (bound : Bindings key.Value value.Value) :
    projectPairs (project key) (project value) bound (inRow pairs) = .error e := by
  cases h with
  | field hbefore hfield =>
    rw [inRow, List.flatMap_append]
    refine (projectPairs_append hbefore bound _).trans ?_
    simp [projectPairs, hfield]
  | content hbefore hfield hcontent =>
    rw [inRow, List.flatMap_append]
    refine (projectPairs_append hbefore bound _).trans ?_
    simp [projectPairs, hfield, hcontent]

theorem projectItems_of_failsFirst (h : FailsFirst key value pairs e)
    (done : List (key.Value × value.Value)) :
    projectItems (project (.pair key value)) done (inPairs pairs) = .error e := by
  cases h with
  | field hbefore hfield =>
    rw [inPairs, List.map_append]
    refine (projectItems_append hbefore done _).trans ?_
    simp [projectItems, project_pair, hfield]
  | content hbefore hfield hcontent =>
    rw [inPairs, List.map_append]
    refine (projectItems_append hbefore done _).trans ?_
    simp [projectItems, project_pair, hfield, hcontent]

theorem project_map_inRow (key value : Shape) (pairs : List (Reply × Reply)) :
    project (.map key value) (.array (inRow pairs)) =
      projectPairs (project key) (project value) Bindings.empty (inRow pairs) := by
  have heven : (inRow pairs).length % 2 = 0 := by
    induction pairs with
    | nil => rfl
    | cons p rest ih =>
      have hlength : (inRow (p :: rest)).length = (inRow rest).length + 2 := by
        simp [inRow]
      omega
  exact if_pos heven

/-- Fields and values are read as a map from one flat array exactly when they are read as pairs
    from an array of arrays of two. The map then has the keys of the pairs, each once, and for each
    the value of the last pair that has it. Where they are not read, both readings fail with the
    same error: that of the first field or value, in order, that is not what it is read as. -/
theorem project_map_agrees_with_pairs (key value : Shape) (pairs : List (Reply × Reply)) :
    (∃ entries bound, List.Forall₂ (Reads key value) pairs entries ∧
      project (.list (.pair key value)) (.array (inPairs pairs)) = .ok entries ∧
      project (.map key value) (.array (inRow pairs)) = .ok bound ∧ bound.Latest entries) ∨
    ∃ e, FailsFirst key value pairs e ∧
      project (.list (.pair key value)) (.array (inPairs pairs)) = .error e ∧
      project (.map key value) (.array (inRow pairs)) = .error e := by
  rw [project_map_inRow]
  rcases reads_or_failsFirst key value pairs with ⟨entries, hreads⟩ | ⟨e, he⟩
  · left
    refine ⟨entries, Bindings.empty.insertAll entries, hreads, ?_, ?_, ?_⟩
    · have hitems := projectItems_append hreads [] []
      rw [List.append_nil, List.append_nil] at hitems
      refine hitems.trans ?_
      simp [projectItems]
    · have hmap := projectPairs_append hreads Bindings.empty []
      rw [List.append_nil] at hmap
      exact hmap
    · exact Bindings.latest_insertAll entries
  · right
    exact ⟨e, he, projectItems_of_failsFirst he [], projectPairs_of_failsFirst he Bindings.empty⟩

example : project (.map .text .integer)
    (.array (inRow [(.status "n", .integer 1), (.status "m", .integer 2),
      (.status "n", .integer 3)])) = .ok ⟨[("n", 3), ("m", 2)]⟩ := by decide +kernel

end Shape

end RespLink
