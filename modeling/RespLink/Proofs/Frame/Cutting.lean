import RespLink.Frame.Stream
import RespLink.Proofs.Frame.Steady

/-!
# Cutting — a stream decodes alike however it arrives

Bytes arrive in pieces whose ends mean nothing, so what is decoded should depend on the stream
alone. It does as long as no frame, and nothing left over at the end, exceeds the limit. Without
that it would not: a long frame that arrives at once is read, and the same frame in two pieces is
given up in the middle.

What carries the proof is that the reader is steady. A piece that ends inside a frame is merely
unfinished, so nothing is taken from it and nothing is refused, and what was refused already stays
refused for the same reason.
-/

namespace RespLink

/-- What came of taking frames until none was complete or one was faulty. -/
structure Drained where
  replies : List Reply
  fault : Option FrameFault
  /-- The decoder with what was left over. -/
  decoder : Decoder
  deriving DecidableEq

namespace Drained

/-- The same behind replies that were taken before. -/
def after (replies : List Reply) (d : Drained) : Drained :=
  { d with replies := replies ++ d.replies }

/-- Two ways of arriving come to the same: equal replies, the same fault if there is one, and
    without a fault the same bytes left over. -/
def Agrees (d e : Drained) : Prop :=
  d.replies = e.replies ∧ d.fault = e.fault ∧ (d.fault = none → d.decoder = e.decoder)

theorem after_after (d : Drained) (rs ss : List Reply) :
    (d.after ss).after rs = d.after (rs ++ ss) := by
  simp [Drained.after]

theorem Agrees.symm {d e : Drained} (h : d.Agrees e) : e.Agrees d :=
  ⟨h.1.symm, h.2.1.symm, fun hnone => (h.2.2 (h.2.1.trans hnone)).symm⟩

theorem Agrees.trans {d e f : Drained} (h : d.Agrees e) (h' : e.Agrees f) : d.Agrees f :=
  ⟨h.1.trans h'.1, h.2.1.trans h'.2.1,
    fun hnone => (h.2.2 hnone).trans (h'.2.2 (h.2.1.symm.trans hnone))⟩

theorem Agrees.after {d e : Drained} (replies : List Reply) (h : d.Agrees e) :
    (d.after replies).Agrees (e.after replies) :=
  ⟨congrArg (replies ++ ·) h.1, h.2.1, h.2.2⟩

end Drained

namespace Decoder

/-! ## One frame -/

theorem next_of_read {d : Decoder} {r : Reply} {rest : Bytes}
    (h : Reply.read d.buffer = .ok (r, rest)) :
    d.next = (.ok (some r), { d with buffer := rest }) := by
  have hne : d.buffer.isEmpty = false := by simpa using Reply.ne_nil_of_read h
  simp only [next, hne, h, Bool.false_eq_true, if_false]

theorem next_of_fault {d : Decoder} {fault : FrameFault} (h : Reply.read d.buffer = .error fault)
    (hfault : fault ≠ .incomplete) : d.next = (.error fault, d) := by
  have hne : d.buffer.isEmpty = false := by
    cases hb : d.buffer with
    | nil => rw [hb] at h; cases h; exact absurd rfl hfault
    | cons b bytes => rfl
  simp only [next, hne, h, Bool.false_eq_true, if_false]

theorem next_of_incomplete {d : Decoder} (h : Reply.read d.buffer = .error .incomplete)
    (hlimit : d.buffer.length ≤ d.limit) : d.next = (.ok none, d) := by
  unfold next
  split
  · rfl
  · simp only [h, if_neg (Nat.not_lt.mpr hlimit)]

theorem next_of_overfull {d : Decoder} (h : Reply.read d.buffer = .error .incomplete)
    (hlimit : d.limit < d.buffer.length) : d.next = (.error (.tooLarge d.limit), d) := by
  have hne : d.buffer.isEmpty = false := by
    cases hb : d.buffer with
    | nil => rw [hb] at hlimit; exact absurd hlimit (Nat.not_lt_zero d.limit)
    | cons b bytes => rfl
  simp only [next, hne, h, Bool.false_eq_true, if_false, if_pos hlimit]

/-- What `next` takes is one whole frame; where it takes none, the decoder stays as it is. -/
theorem next_cases (d : Decoder) :
    (∃ r used rest, d.buffer = used ++ rest ∧ Reply.read d.buffer = .ok (r, rest) ∧
      Reply.read used = .ok (r, []) ∧ d.next = (.ok (some r), { d with buffer := rest })) ∨
    d.next = (.ok none, d) ∨ ∃ fault, d.next = (.error fault, d) := by
  cases h : Reply.read d.buffer with
  | ok p =>
    obtain ⟨used, hsplit, hused⟩ := Reply.read_steady.front h
    exact Or.inl ⟨p.1, used, p.2, hsplit, rfl, hused, next_of_read h⟩
  | error fault =>
    by_cases hfault : fault = .incomplete
    · subst hfault
      by_cases hlimit : d.buffer.length ≤ d.limit
      · exact Or.inr (Or.inl (next_of_incomplete h hlimit))
      · exact Or.inr (Or.inr ⟨_, next_of_overfull h (Nat.not_le.mp hlimit)⟩)
    · exact Or.inr (Or.inr ⟨fault, next_of_fault h hfault⟩)

theorem next_shrinks {d d' : Decoder} {r : Reply} (h : d.next = (.ok (some r), d')) :
    d'.buffer.length < d.buffer.length := by
  rcases d.next_cases with ⟨s, used, rest, hsplit, -, hused, hnext⟩ | hnext | ⟨fault, hnext⟩
  · rw [hnext] at h
    cases h
    have hpos := List.length_pos_iff.mpr (Reply.ne_nil_of_read hused)
    rw [hsplit, List.length_append]
    exact Nat.lt_add_of_pos_left hpos
  · rw [hnext] at h
    cases h
  · rw [hnext] at h
    cases h

/-! ## All frames that are there -/

/-- Takes frames until none is complete or one is faulty. -/
def drain (d : Decoder) : Drained :=
  match _h : d.next with
  | (.ok (some r), d') => d'.drain.after [r]
  | (.ok none, d') => ⟨[], none, d'⟩
  | (.error fault, d') => ⟨[], some fault, d'⟩
termination_by d.buffer.length
decreasing_by exact next_shrinks _h

/-- Lets pieces arrive one after the other and takes all frames that are there after each, up to
    the first fault. -/
def feedAll (d : Decoder) : List Bytes → Drained
  | [] => ⟨[], none, d⟩
  | piece :: pieces =>
    let first := (d.feed piece).drain
    match first.fault with
    | some _ => first
    | none => (first.decoder.feedAll pieces).after first.replies

theorem drain_of_some {d d' : Decoder} {r : Reply} (h : d.next = (.ok (some r), d')) :
    d.drain = d'.drain.after [r] := by
  rw [drain]
  split <;> simp_all

theorem drain_of_none {d d' : Decoder} (h : d.next = (.ok none, d')) :
    d.drain = ⟨[], none, d'⟩ := by
  rw [drain]
  split <;> simp_all

theorem drain_of_fault {d d' : Decoder} {fault : FrameFault} (h : d.next = (.error fault, d')) :
    d.drain = ⟨[], some fault, d'⟩ := by
  rw [drain]
  split <;> simp_all

/-! ## Streams within the limit -/

/-- Every complete frame of a stream, one after the other, and what is left behind them, hold at
    most `limit` bytes. -/
inductive WithinLimit (limit : Nat) : Bytes → Prop
  | remainder {s : Bytes} : (∀ r rest, Reply.read s ≠ .ok (r, rest)) → s.length ≤ limit →
    WithinLimit limit s
  | frame {used rest : Bytes} {r : Reply} : Reply.read (used ++ rest) = .ok (r, rest) →
    used.length ≤ limit → WithinLimit limit rest → WithinLimit limit (used ++ rest)

theorem WithinLimit.rest {limit : Nat} {s rest : Bytes} {r : Reply} (h : WithinLimit limit s)
    (hr : Reply.read s = .ok (r, rest)) : WithinLimit limit rest := by
  cases h with
  | remainder hnone _ => exact absurd hr (hnone r rest)
  | frame hread _ hrest =>
    rw [hread] at hr
    cases hr
    exact hrest

/-- The unfinished front of a stream within the limit is within it, too. -/
theorem WithinLimit.length_le {limit : Nat} {b x : Bytes} (h : WithinLimit limit (b ++ x))
    (hb : Reply.read b = .error .incomplete) : b.length ≤ limit := by
  generalize hs : b ++ x = s at h
  cases h with
  | remainder _ hlen =>
    rw [← hs, List.length_append] at hlen
    exact Nat.le_of_add_right_le hlen
  | @frame used rest r hread hlen _ =>
    obtain ⟨used', hsplit, hused⟩ := Reply.read_steady.front hread
    rw [List.append_cancel_right hsplit] at hlen
    refine Nat.le_of_not_lt fun hlong => ?_
    -- the whole frame would be there and `b` not unfinished
    have hprefix : used' <+: b := by
      refine List.prefix_of_prefix_length_le ⟨rest, ?_⟩ ⟨x, rfl⟩ (by omega)
      rw [hs, hsplit]
    obtain ⟨y, rfl⟩ := hprefix
    rw [Reply.read_steady.ok_append y hused] at hb
    cases hb

/-- Taking all frames of `b` and then, with `x` behind what is left, those that are there, is
    taking all frames of `b ++ x`. -/
theorem drain_append {limit : Nat} (b x : Bytes) (h : WithinLimit limit (b ++ x)) :
    match (drain ⟨limit, b⟩).fault with
    | some _ => (drain ⟨limit, b⟩).Agrees (drain ⟨limit, b ++ x⟩)
    | none => ∃ rest, (drain ⟨limit, b⟩).decoder = ⟨limit, rest⟩ ∧ WithinLimit limit (rest ++ x) ∧
        drain ⟨limit, rest⟩ = ⟨[], none, ⟨limit, rest⟩⟩ ∧
        drain ⟨limit, b ++ x⟩ = (drain ⟨limit, rest ++ x⟩).after (drain ⟨limit, b⟩).replies := by
  induction hn : b.length using Nat.strongRecOn generalizing b with
  | ind n ih =>
    subst hn
    cases hb : Reply.read b with
    | ok p =>
      obtain ⟨r, rest⟩ := p
      have hbx := Reply.read_steady.ok_append x hb
      have hfirst : drain ⟨limit, b⟩ = (drain ⟨limit, rest⟩).after [r] :=
        drain_of_some (next_of_read (d := ⟨limit, b⟩) hb)
      have hwhole : drain ⟨limit, b ++ x⟩ = (drain ⟨limit, rest ++ x⟩).after [r] :=
        drain_of_some (next_of_read (d := ⟨limit, b ++ x⟩) hbx)
      have hshort : rest.length < b.length :=
        next_shrinks (next_of_read (d := ⟨limit, b⟩) hb)
      have htail := ih rest.length hshort rest (h.rest hbx) rfl
      have hsame : ((drain ⟨limit, rest⟩).after [r]).fault = (drain ⟨limit, rest⟩).fault := rfl
      rw [hfirst, hwhole, hsame]
      cases hfault : (drain ⟨limit, rest⟩).fault with
      | some fault =>
        rw [hfault] at htail
        exact htail.after [r]
      | none =>
        rw [hfault] at htail
        obtain ⟨left, hleft, hwithin, hquiet, happend⟩ := htail
        exact ⟨left, hleft, hwithin, hquiet, by rw [happend, Drained.after_after]; rfl⟩
    | error fault =>
      by_cases hfault : fault = .incomplete
      · subst hfault
        have hnone := drain_of_none (next_of_incomplete (d := ⟨limit, b⟩) hb (h.length_le hb))
        rw [hnone]
        exact ⟨b, rfl, h, hnone, rfl⟩
      · have hbx := Reply.read_steady.error_append x hb hfault
        rw [drain_of_fault (next_of_fault (d := ⟨limit, b⟩) hb hfault),
          drain_of_fault (next_of_fault (d := ⟨limit, b ++ x⟩) hbx hfault)]
        exact ⟨rfl, rfl, fun h => by cases h⟩

/-! ## Pieces -/

theorem feedAll_agrees {limit : Nat} {b : Bytes} (pieces : List Bytes)
    (hquiet : drain ⟨limit, b⟩ = ⟨[], none, ⟨limit, b⟩⟩)
    (h : WithinLimit limit (b ++ pieces.flatten)) :
    (feedAll ⟨limit, b⟩ pieces).Agrees (drain ⟨limit, b ++ pieces.flatten⟩) := by
  induction pieces generalizing b with
  | nil =>
    rw [List.flatten_nil, List.append_nil, hquiet]
    exact ⟨rfl, rfl, fun _ => rfl⟩
  | cons piece pieces ih =>
    rw [List.flatten_cons, ← List.append_assoc] at h ⊢
    have hfirst := drain_append (b ++ piece) pieces.flatten h
    have hfeed : feed ⟨limit, b⟩ piece = ⟨limit, b ++ piece⟩ := rfl
    rw [feedAll, hfeed]
    cases hfault : (drain ⟨limit, b ++ piece⟩).fault with
    | some fault =>
      rw [hfault] at hfirst
      exact hfirst
    | none =>
      rw [hfault] at hfirst
      obtain ⟨rest, hrest, hwithin, hquiet, happend⟩ := hfirst
      rw [hrest, happend]
      exact (ih hquiet hwithin).after _

/-- However a stream within the limit is cut, the pieces one after the other come to the same as
    the whole of it at once. A frame that is taken leaves exactly what stood behind it, and where
    none is taken nothing is removed. -/
theorem feedAll_flatten (limit : Nat) (pieces : List Bytes)
    (h : WithinLimit limit pieces.flatten) :
    ((empty limit).feedAll pieces).Agrees ((empty limit).feedAll [pieces.flatten]) ∧
    ∀ d d' : Decoder,
      (∀ r, d.next = (.ok (some r), d') →
        d'.limit = d.limit ∧ ∃ used, d.buffer = used ++ d'.buffer ∧ Reply.read used = .ok (r, [])) ∧
      (d.next = (.ok none, d') → d' = d) ∧
      ∀ fault, d.next = (.error fault, d') → d' = d := by
  have hquiet : drain ⟨limit, []⟩ = ⟨[], none, ⟨limit, []⟩⟩ := drain_of_none rfl
  constructor
  · have hcut := feedAll_agrees pieces hquiet h
    have hwhole := feedAll_agrees (b := []) [pieces.flatten] hquiet (by simpa using h)
    rw [List.flatten_singleton] at hwhole
    exact hcut.trans hwhole.symm
  · intro d d'
    rcases d.next_cases with ⟨r, used, rest, hsplit, -, hused, hnext⟩ | hnext | ⟨fault, hnext⟩
    · rw [hnext]
      refine ⟨fun s h => ?_, fun h => (by cases h), fun fault h => (by cases h)⟩
      cases h
      exact ⟨rfl, used, hsplit, hused⟩
    · rw [hnext]
      refine ⟨fun s h => (by cases h), fun h => ?_, fun fault h => (by cases h)⟩
      cases h
      rfl
    · rw [hnext]
      refine ⟨fun s h => (by cases h), fun h => (by cases h), fun fault h => ?_⟩
      cases h
      rfl

/-- A list of two items, then a text whose line end is missing, cut inside a length, between the
    bytes of a line end, inside the list and nowhere at all. -/
def piecemeal : List Bytes :=
  [[42], [50, 13, 10, 36], [51, 13], [10, 97, 13, 10], [], [13, 10, 58, 55, 13], [10, 43, 79]]

theorem feedAll_flatten_piecemeal :
    WithinLimit 17 piecemeal.flatten ∧
    ((empty 17).feedAll piecemeal).Agrees ((empty 17).feedAll [piecemeal.flatten]) := by
  have hframe : Reply.read piecemeal.flatten
      = .ok (.array [.bulk [97, 13, 10], .integer 7], [43, 79]) := rfl
  have hrest : Reply.read [43, 79] = .error .incomplete := rfl
  have hremainder : WithinLimit 17 [43, 79] := by
    refine .remainder (fun r rest h => ?_) (by decide)
    rw [hrest] at h
    cases h
  have hwithin : WithinLimit 17 (piecemeal.flatten.take 17 ++ [43, 79]) :=
    .frame hframe (by decide) hremainder
  exact ⟨hwithin, (feedAll_flatten 17 piecemeal hwithin).1⟩

end Decoder

end RespLink
