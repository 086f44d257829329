/-!
# Bindings — a finite map as a list

The map that a flat array of fields and values spells. A key that occurs again replaces the
value it had; nothing is said about the order, so laws speak of `Bindings.get?` only.
-/

namespace RespLink

/-- Keys with one value each. -/
structure Bindings (κ ν : Type) where
  entries : List (κ × ν)
  deriving DecidableEq, Repr, Inhabited

namespace Bindings

variable {κ ν : Type} [DecidableEq κ]

/-- No keys. -/
def empty : Bindings κ ν := ⟨[]⟩

/-- The value of the first entry with a key. -/
def lookup (k : κ) : List (κ × ν) → Option ν
  | [] => none
  | (k', v) :: rest => if k' = k then some v else lookup k rest

/-- The value of a key. -/
def get? (b : Bindings κ ν) (k : κ) : Option ν := lookup k b.entries

/-- The entries with a key bound to a value, in the place of the entry it had. -/
def bind (k : κ) (v : ν) : List (κ × ν) → List (κ × ν)
  | [] => [(k, v)]
  | (k', v') :: rest => if k' = k then (k, v) :: rest else (k', v') :: bind k v rest

/-- Binds a key to a value, whatever it was bound to. -/
def insert (b : Bindings κ ν) (k : κ) (v : ν) : Bindings κ ν := ⟨bind k v b.entries⟩

/-- The entries without those of a key. -/
def erase (b : Bindings κ ν) (k : κ) : Bindings κ ν := ⟨b.entries.filter fun e => e.1 ≠ k⟩

theorem lookup_bind (k k' : κ) (v : ν) (entries : List (κ × ν)) :
    lookup k' (bind k v entries) = if k = k' then some v else lookup k' entries := by
  induction entries with
  | nil => simp [bind, lookup]
  | cons e rest ih =>
    obtain ⟨k₀, v₀⟩ := e
    by_cases h : k₀ = k
    · subst h
      by_cases h' : k₀ = k' <;> simp [bind, lookup, h']
    · by_cases h' : k₀ = k'
      · subst h'
        have hne : ¬ k = k₀ := fun e => h e.symm
        simp [bind, lookup, h, hne]
      · simp [bind, lookup, h, h', ih]

theorem get?_insert (b : Bindings κ ν) (k k' : κ) (v : ν) :
    (b.insert k v).get? k' = if k = k' then some v else b.get? k' :=
  lookup_bind k k' v b.entries

theorem lookup_filter_ne (k k' : κ) (entries : List (κ × ν)) :
    lookup k' (entries.filter fun e => e.1 ≠ k) = if k = k' then none else lookup k' entries := by
  induction entries with
  | nil => simp [lookup]
  | cons e rest ih =>
    obtain ⟨k₀, v₀⟩ := e
    by_cases h : k₀ = k
    · subst h
      by_cases h' : k₀ = k'
      · subst h'
        simpa [lookup] using ih
      · simpa [lookup, h'] using ih
    · by_cases h' : k₀ = k'
      · subst h'
        have hne : ¬ k = k₀ := fun e => h e.symm
        simp [lookup, h, hne]
      · simpa [lookup, h, h'] using ih

theorem get?_erase (b : Bindings κ ν) (k k' : κ) :
    (b.erase k).get? k' = if k = k' then none else b.get? k' :=
  lookup_filter_ne k k' b.entries

end Bindings

end RespLink
