import RespLink.Proofs.Frame.Cutting
import RespLink.Proofs.Frame.RoundTrip
import RespLink.Proofs.Request.Encoding

/-!
# Decoding — a request is its tokens, whatever they hold

A request is the frame of an array of byte strings, so it is read back like any other frame:
however many requests stand one behind the other, each comes out as its own tokens, and what is
left is what stood behind the last one. Line ends, marks and lengths that occur in an argument are
bytes of it and nothing more.

The other way round, bytes that are a request are the request of one list of tokens. This needs no
reader: every line and every byte string says where it ends, so two requests that begin alike go
on alike, and it holds even for lengths that no reader would accept.
-/

namespace RespLink

namespace Command

/-- A request as the reply that its bytes are the frame of. -/
def asReply (c : Command) : Reply := .array (c.tokens.map .bulk)

/-- Whether a reader accepts the lengths that a request announces, as it does those of anything
    that fits into memory. -/
structure Announceable (c : Command) : Prop where
  count : c.tokens.length ≤ Int64.maxValue.toInt
  token : ∀ t ∈ c.tokens, t.length ≤ Int64.maxValue.toInt

@[simp] theorem length_tokens (c : Command) : c.tokens.length = c.tokenCount := by
  simp [tokens, tokenCount]

/-! ## Requests are read -/

theorem frame_asReply (c : Command) : c.asReply.frame = c.encode := by
  rw [asReply, Reply.frame_array, List.length_map, length_tokens, encode, header, List.map_map]
  rfl

theorem legible_asReply (c : Command) (room : Nat) : c.asReply.Legible (room + 1) := by
  refine .of_items fun r hr => ?_
  obtain ⟨t, -, rfl⟩ := List.mem_map.mp hr
  exact .of_leaf (by simp) (by simp [Reply.lineText?]) (by simp [Reply.isArray])

theorem Announceable.part {c : Command} (h : c.Announceable) :
    ∀ n s, c.asReply.Part n s → s.announced ≤ Int64.maxValue.toInt := by
  rw [asReply, Reply.forall_part_array]
  refine ⟨by simpa [Reply.announced] using h.count, fun r hr => ?_⟩
  obtain ⟨t, ht, rfl⟩ := List.mem_map.mp hr
  rw [Reply.forall_part_leaf (by simp)]
  exact h.token t ht

theorem read_encode_append {c : Command} (h : c.Announceable) (rest : Bytes) :
    Reply.read (c.encode ++ rest) = .ok (c.asReply, rest) := by
  rw [← frame_asReply]
  exact Reply.readWithin_frame rest (c.legible_asReply 127) h.part

end Command

/-- `d.Yields replies d'`: taking one frame after the other gives these replies, and then the
    decoder is `d'`. -/
inductive Decoder.Yields : Decoder → List Reply → Decoder → Prop
  | done (d : Decoder) : d.Yields [] d
  | frame {d d' e : Decoder} {r : Reply} {replies : List Reply} :
    d.next = (.ok (some r), d') → d'.Yields replies e → d.Yields (r :: replies) e

theorem Decoder.yields_encodeAll (limit : Nat) {commands : List Command} (trailing : Bytes)
    (h : ∀ c ∈ commands, c.Announceable) :
    Decoder.Yields ⟨limit, Command.encodeAll commands ++ trailing⟩ (commands.map Command.asReply)
      ⟨limit, trailing⟩ := by
  induction commands with
  | nil => exact .done _
  | cons c commands ih =>
    have hread : Reply.read (Command.encodeAll (c :: commands) ++ trailing)
        = .ok (c.asReply, Command.encodeAll commands ++ trailing) := by
      rw [Command.encodeAll, List.map_cons, List.flatten_cons, List.append_assoc]
      exact Command.read_encode_append (h c (by simp)) _
    refine .frame (Decoder.next_of_read (d := ⟨limit, _⟩) hread) ?_
    exact ih fun d hd => h d (by simp [hd])

/-! ## Sizes -/

theorem length_bulkFrame (data : Bytes) : (bulkFrame data).length = tokenSize data := by
  simp [bulkFrame, Kind.line, tokenSize, Bytes.crlf]
  omega

namespace Command

theorem length_header (c : Command) : c.header.length = c.headerSize := by
  simp [header, arrayHeader, Kind.line, headerSize, Bytes.crlf]
  omega

theorem length_encode (c : Command) : c.encode.length = c.encodedSize := by
  have htokens : ∀ (tokens : List Bytes) (size : Nat),
      size + (tokens.map bulkFrame).flatten.length
        = tokens.foldl (fun size t => size + tokenSize t) size := by
    intro tokens
    induction tokens with
    | nil => simp
    | cons t tokens ih =>
      intro size
      rw [List.foldl_cons, ← ih, List.map_cons, List.flatten_cons, List.length_append,
        length_bulkFrame, Nat.add_assoc]
  rw [encode, List.length_append, length_header, encodedSize]
  exact htokens c.tokens c.headerSize

end Command

/-! ## What begins alike goes on alike -/

theorem Kind.line_append_inj {kind : Kind} {m n : Nat} {x y : Bytes}
    (h : kind.line (Decimal.ofNat m) ++ x = kind.line (Decimal.ofNat n) ++ y) :
    m = n ∧ x = y := by
  have hline (k : Nat) : ¬ Bytes.crlf <:+: Decimal.ofNat k := by
    rw [← Decimal.ofInt_natCast]
    exact Frame.not_crlf_infix_ofInt k
  rw [Reply.line_append, Reply.line_append, List.cons.injEq] at h
  have hread := Frame.readLine_line x (hline m)
  rw [h.2, Frame.readLine_line y (hline n)] at hread
  injection hread with hread
  injection hread with hnumeral hrest
  have hm := Decimal.digits?_ofNat m
  rw [← hnumeral, Decimal.digits?_ofNat] at hm
  exact ⟨(Option.some.inj hm).symm, hrest.symm⟩

theorem bulkFrame_append_inj {a b x y : Bytes} (h : bulkFrame a ++ x = bulkFrame b ++ y) :
    a = b ∧ x = y := by
  rw [bulkFrame, bulkFrame] at h
  simp only [List.append_assoc] at h
  obtain ⟨hlen, h⟩ := Kind.line_append_inj h
  obtain ⟨hab, h⟩ := List.append_inj h hlen
  exact ⟨hab, List.append_cancel_left h⟩

theorem bulkFrames_append_inj {ts us : List Bytes} {x y : Bytes} (hlen : ts.length = us.length)
    (h : (ts.map bulkFrame).flatten ++ x = (us.map bulkFrame).flatten ++ y) :
    ts = us ∧ x = y := by
  induction ts generalizing us with
  | nil =>
    have hnil : us = [] := List.eq_nil_of_length_eq_zero hlen.symm
    subst hnil
    exact ⟨rfl, h⟩
  | cons t ts ih =>
    cases us with
    | nil => cases hlen
    | cons u us =>
      rw [List.map_cons, List.map_cons, List.flatten_cons, List.flatten_cons, List.append_assoc,
        List.append_assoc] at h
      obtain ⟨rfl, htail⟩ := bulkFrame_append_inj h
      obtain ⟨rfl, hrest⟩ := ih (Nat.succ.inj hlen) htail
      exact ⟨rfl, hrest⟩

namespace Command

theorem encode_append_inj {c d : Command} {x y : Bytes} (h : c.encode ++ x = d.encode ++ y) :
    c.tokens = d.tokens ∧ x = y := by
  rw [encode, encode, header, header, arrayHeader, arrayHeader, List.append_assoc,
    List.append_assoc] at h
  obtain ⟨hcount, h⟩ := Kind.line_append_inj h
  exact bulkFrames_append_inj (by rw [length_tokens, length_tokens, hcount]) h

theorem encode_eq_of_tokens {c d : Command} (h : c.tokens = d.tokens) : c.encode = d.encode := by
  rw [encode, encode, header, header, ← length_tokens, ← length_tokens, h]

theorem encode_eq_iff (c d : Command) : c.encode = d.encode ↔ c.tokens = d.tokens := by
  constructor
  · intro h
    exact (encode_append_inj (congrArg (· ++ []) h)).1
  · exact encode_eq_of_tokens

/-- Requests that stand one behind the other are taken apart into the tokens of each, and nothing
    of what follows them is touched. Each is as long as was computed without encoding it, and it
    is the request of its tokens and of no others. -/
theorem decode_encodeAll (limit : Nat) (commands : List Command) (trailing : Bytes)
    (h : ∀ c ∈ commands, c.Announceable) :
    Decoder.Yields ⟨limit, encodeAll commands ++ trailing⟩
      (commands.map fun c => .array (c.tokens.map .bulk)) ⟨limit, trailing⟩ ∧
    (∀ c ∈ commands, c.encode.length = c.encodedSize) ∧
    ∀ c d : Command, c.encode = d.encode ↔ c.tokens = d.tokens :=
  ⟨Decoder.yields_encodeAll limit trailing h, fun c _ => c.length_encode, encode_eq_iff⟩

/-- A request with line ends, marks and nothing in its arguments, then one without a token. -/
def contrived : List Command :=
  [⟨"config\tSET", [Bytes.crlf, [36, 52, 13, 10], [42], []]⟩, ⟨" ", []⟩]

theorem decode_encodeAll_contrived :
    (∀ c ∈ contrived, c.Announceable) ∧
    Decoder.Yields ⟨7, encodeAll contrived ++ [42, 49]⟩
      (contrived.map fun c => .array (c.tokens.map .bulk)) ⟨7, [42, 49]⟩ := by
  have hsmall : ∀ c ∈ contrived, c.Announceable := by
    intro c hc
    have hcount : ∀ c ∈ contrived, (c.tokens.length : Int) ≤ Int64.maxValue.toInt := by decide
    have htoken : ∀ c ∈ contrived, ∀ t ∈ c.tokens, (t.length : Int) ≤ Int64.maxValue.toInt := by
      decide
    exact ⟨hcount c hc, htoken c hc⟩
  exact ⟨hsmall, (decode_encodeAll 7 contrived [42, 49] hsmall).1⟩

end Command

end RespLink
