import RespLink.Request.Transfer

/-!
# Encodings — commands one after the other

What a server gets to see are the encodings of commands, one behind the other. How they come to
be there makes no difference: a command that passes through a buffer of some capacity is cut into
slices, but these one after the other are its encoding again, and the capacity decides only where
the cuts are.
-/

namespace RespLink

namespace Command

/-- The bytes of several requests. -/
def encodeAll (commands : List Command) : Bytes := (commands.map encode).flatten

@[simp] theorem encodeAll_nil : encodeAll [] = [] := rfl

@[simp] theorem encodeAll_append (commands more : List Command) :
    encodeAll (commands ++ more) = encodeAll commands ++ encodeAll more := by
  simp [encodeAll]

@[simp] theorem encodeAll_singleton (c : Command) : encodeAll [c] = c.encode := by
  simp [encodeAll]

theorem encodeAll_prefix {commands more : List Command} (h : commands <+: more) :
    encodeAll commands <+: encodeAll more := by
  obtain ⟨rest, rfl⟩ := h
  rw [encodeAll_append]
  exact List.prefix_append _ _

/-- The front of several requests is some of them in full and the front of the next one. -/
theorem exists_cut_of_prefix {b : Bytes} {commands : List Command} (h : b <+: encodeAll commands) :
    ∃ n last, b = encodeAll (commands.take n) ++ last ∧
      (last = [] ∨ ∃ c, commands[n]? = some c ∧ last <+: c.encode) := by
  induction commands generalizing b with
  | nil => exact ⟨0, [], by simpa using List.prefix_nil.mp h, Or.inl rfl⟩
  | cons c commands ih =>
    have hcons (cs : List Command) : encodeAll (c :: cs) = c.encode ++ encodeAll cs := by
      simp [encodeAll]
    rw [hcons] at h
    rcases List.prefix_or_prefix_of_prefix h (List.prefix_append _ _) with hshort | ⟨b', rfl⟩
    · exact ⟨0, b, rfl, Or.inr ⟨c, rfl, hshort⟩⟩
    · obtain ⟨n, last, rfl, hlast⟩ := ih ((List.prefix_append_right_inj _).mp h)
      refine ⟨n + 1, last, ?_, hlast⟩
      rw [List.take_succ_cons, hcons, List.append_assoc]

end Command

namespace Transfer

theorem slicesFrom_flatten (capacity : Nat) (buffer : Bytes) (tokens : List Bytes) :
    (slicesFrom capacity buffer tokens).flatten = buffer ++ (tokens.map bulkFrame).flatten := by
  induction tokens generalizing buffer with
  | nil => simp [slicesFrom]
  | cons token tokens ih =>
    rw [slicesFrom]
    split
    · simp [ih]
    · simp [ih]

theorem write_flatten (capacity : Nat) (buffer : Bytes) (c : Command) :
    (write capacity buffer c).slices.flatten = c.encode :=
  slicesFrom_flatten capacity c.header c.tokens

end Transfer

end RespLink
