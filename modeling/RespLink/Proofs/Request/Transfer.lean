import RespLink.Proofs.Request.Decoding

/-!
# Transfers — nothing is cut but between parts

A request that is written through a buffer leaves in slices. The decision to send what is there is
made from sizes alone, before a token is encoded, so that no slice overruns the buffer depends on
the computed sizes being those of the bytes: of a token, of the header, and of the largest of all,
against which a request is checked when it is taken on.

A buffer is collected token by token, and a slice is what one was when it was sent. So what holds of
the header, holds of each token alone and is kept where a token that still fits is put behind, holds
of every slice (`forall_mem_slicesFrom`).
-/

namespace RespLink

namespace Command

/-- The request up to the end of so many of its tokens; up to that of its header if there are
    none. -/
def upTo (c : Command) (tokens : Nat) : Bytes :=
  c.header ++ ((c.tokens.take tokens).map bulkFrame).flatten

theorem foldl_max_le_iff {bound start : Nat} {sizes : List Nat} :
    sizes.foldl max start ≤ bound ↔ start ≤ bound ∧ ∀ size ∈ sizes, size ≤ bound := by
  induction sizes generalizing start with
  | nil => simp
  | cons size sizes ih =>
    rw [List.foldl_cons, ih, Nat.max_le, List.forall_mem_cons, and_assoc]

/-- The largest part is within a bound exactly if the header and every token are. -/
theorem largestPart_le_iff {c : Command} {bound : Nat} :
    c.largestPart ≤ bound ↔ c.headerSize ≤ bound ∧ ∀ t ∈ c.tokens, tokenSize t ≤ bound := by
  rw [largestPart, foldl_max_le_iff, List.forall_mem_map]

end Command

namespace Transfer

variable {capacity : Nat} {buffer : Bytes} {tokens : List Bytes}

/-- What a buffer is when it is begun, and stays where a token that fits is put behind, each slice
    is. -/
theorem forall_mem_slicesFrom {P : Bytes → Prop} (hbuffer : P buffer)
    (hbegun : ∀ t ∈ tokens, P (bulkFrame t))
    (hfits : ∀ b, P b → ∀ t ∈ tokens, b.length + tokenSize t ≤ capacity → P (b ++ bulkFrame t)) :
    ∀ s ∈ slicesFrom capacity buffer tokens, P s := by
  induction tokens generalizing buffer with
  | nil =>
    intro s hs
    rw [slicesFrom, List.mem_singleton] at hs
    rw [hs]
    exact hbuffer
  | cons token rest ih =>
    have hrest {b : Bytes} (hb : P b) : ∀ s ∈ slicesFrom capacity b rest, P s :=
      ih hb (fun t ht => hbegun t (by simp [ht])) fun b hb t ht => hfits b hb t (by simp [ht])
    intro s hs
    rw [slicesFrom] at hs
    split at hs
    · rcases List.mem_cons.mp hs with rfl | hs
      · exact hbuffer
      · exact hrest (hbegun token (by simp)) s hs
    · rename_i hroom
      exact hrest (hfits buffer hbuffer token (by simp) (Nat.not_lt.mp hroom)) s hs

/-- After any number of slices, what was collected at first and some tokens in full are sent. -/
theorem exists_take_flatten (i : Nat) (hi : i < (slicesFrom capacity buffer tokens).length) :
    ∃ m ≤ tokens.length, ((slicesFrom capacity buffer tokens).take (i + 1)).flatten
      = buffer ++ ((tokens.take m).map bulkFrame).flatten := by
  induction tokens generalizing buffer i with
  | nil => exact ⟨0, Nat.le_refl 0, by simp [slicesFrom]⟩
  | cons token rest ih =>
    rw [slicesFrom] at hi ⊢
    split at hi
    · rename_i hfull
      rw [if_pos hfull]
      cases i with
      | zero => exact ⟨0, Nat.zero_le _, by simp⟩
      | succ i =>
        obtain ⟨m, hm, htake⟩ := ih i (Nat.lt_of_succ_lt_succ hi)
        exact ⟨m + 1, Nat.succ_le_succ hm, by simp [htake]⟩
    · rename_i hroom
      rw [if_neg hroom]
      obtain ⟨m, hm, htake⟩ := ih i hi
      exact ⟨m + 1, Nat.succ_le_succ hm, by simp [htake]⟩

/-- A request none of whose parts is larger than the buffer is written in slices that hold at least
    a byte, fit the buffer and end where the header or a token ends. One after the other they are
    the request as it is encoded, whatever the buffer held before, and then it is empty. -/
theorem write_in_parts (capacity : Nat) (buffer : Bytes) (c : Command)
    (h : c.largestPart ≤ capacity) :
    (∀ s ∈ (write capacity buffer c).slices, s ≠ [] ∧ s.length ≤ capacity) ∧
    (∀ i < (write capacity buffer c).slices.length,
      ∃ m ≤ c.tokens.length, ((write capacity buffer c).slices.take (i + 1)).flatten = c.upTo m) ∧
    (write capacity buffer c).slices.flatten = c.encode ∧
    (write capacity buffer c).buffer = [] := by
  obtain ⟨hheader, htokens⟩ := Command.largestPart_le_iff.mp h
  refine ⟨forall_mem_slicesFrom ⟨?_, ?_⟩ ?_ ?_, exists_take_flatten, write_flatten _ _ _, rfl⟩
  · simp [Command.header, arrayHeader, Kind.line]
  · rw [Command.length_header]
    exact hheader
  · intro t ht
    exact ⟨by simp [bulkFrame, Kind.line], by rw [length_bulkFrame]; exact htokens t ht⟩
  · intro b hb t _ hfits
    exact ⟨by simp [hb.1], by rw [List.length_append, length_bulkFrame]; exact hfits⟩

/-- A request whose last token fills the buffer to the last byte, so that it is sent alone. -/
def brimming : Command := ⟨"set nx", [Bytes.crlf, List.replicate 20 118]⟩

theorem write_in_parts_brimming :
    brimming.largestPart ≤ 27 ∧
    ∀ s ∈ (write 27 [42, 49] brimming).slices, s ≠ [] ∧ s.length ≤ 27 :=
  have hlargest : brimming.largestPart ≤ 27 := by decide
  ⟨hlargest, (write_in_parts 27 [42, 49] brimming hlargest).1⟩

end Transfer

end RespLink
