import RespLink.Proofs.Frame.Grammar

/-!
# Positions — how far reading goes, and what it touches on the way

Readers here hand on what is left of a byte string. A program that reads from a buffer does not:
it keeps the whole buffer and a position in it, adds lengths to that position, and takes the bytes
between two positions. Some of these lengths are announced by the peer, so it has to be shown that
no sum exceeds a machine word, that no bytes are taken from outside the buffer, and that neither
loops nor calls go on for longer than the bytes that are there allow.

`Frame.Scan` is reading by position. A scan writes down what it does with its position, step by
step, and `Step.Sound` says what is asked of each. That a scan does what the reader does to the
bytes behind the position, by sound steps, is `Tracks`. It is shown for each part of a frame and put
together by `Tracks.bind`; the induction on the room for arrays only counts the calls that are open.

Where reading ends does not depend on what stands behind, so a position that was found once stays
where it is when more bytes arrive. That comes first.
-/

namespace RespLink

namespace Reply

/-! ## More bytes -/

theorem readTo_eq_ok_iff {b : Bytes} {r : Reply} {n : Nat} :
    readTo b = .ok (r, n) ↔ n ≤ b.length ∧ Reply.read b = .ok (r, b.drop n) := by
  constructor
  · intro h
    obtain ⟨⟨s, rest⟩, hread, he⟩ := exists_of_map_ok h
    cases he
    obtain ⟨used, rfl, -⟩ := read_steady.front hread
    have hused : (used ++ rest).length - rest.length = used.length := by simp
    rw [hused, List.drop_left]
    exact ⟨by simp, hread⟩
  · intro h
    obtain ⟨hn, hread⟩ := h
    have hused : b.length - (b.drop n).length = n := by
      rw [List.length_drop]
      omega
    rw [readTo, hread]
    exact congrArg (fun m => Except.ok (r, m)) hused

theorem readTo_eq_error_iff {b : Bytes} {e : FrameFault} :
    readTo b = .error e ↔ Reply.read b = .error e := by
  rw [readTo]
  cases Reply.read b <;> simp [Except.map]

theorem readTo_append_of_ok {b : Bytes} {r : Reply} {n : Nat} (x : Bytes)
    (h : readTo b = .ok (r, n)) : readTo (b ++ x) = .ok (r, n) := by
  obtain ⟨hn, hread⟩ := readTo_eq_ok_iff.mp h
  have hmore : n ≤ (b ++ x).length := by
    rw [List.length_append]
    omega
  refine readTo_eq_ok_iff.mpr ⟨hmore, ?_⟩
  rw [List.drop_append_of_le_length hn]
  exact read_steady.ok_append x hread

theorem readTo_append_of_error {b : Bytes} {e : FrameFault} (x : Bytes)
    (h : readTo b = .error e) (he : e ≠ .incomplete) : readTo (b ++ x) = .error e :=
  readTo_eq_error_iff.mpr (read_steady.error_append x (readTo_eq_error_iff.mp h) he)

/-- Bytes that arrive later change nothing: a reply that was read ends where it did, and what is no
    frame stays so for the same reason. Until its last byte has arrived, a frame is unfinished. -/
theorem readTo_stable (b x : Bytes) :
    (∀ r n, readTo b = .ok (r, n) → readTo (b ++ x) = .ok (r, n)) ∧
    (∀ e, readTo b = .error e → e ≠ .incomplete → readTo (b ++ x) = .error e) ∧
    ∀ r n, readTo b = .ok (r, n) → n ≤ b.length ∧
      ∀ m < n, readTo (b.take m) = .error .incomplete := by
  refine ⟨fun r n h => readTo_append_of_ok x h, fun e h he => readTo_append_of_error x h he, ?_⟩
  intro r n h
  refine ⟨(readTo_eq_ok_iff.mp h).1, ?_⟩
  intro m hm
  have hwhole : b.take m ++ b.drop m = b := List.take_append_drop m b
  cases hfront : readTo (b.take m) with
  | ok found =>
    -- a frame in the first `m` bytes would be the frame of `b`, which ends behind them
    have hshort := (readTo_eq_ok_iff.mp hfront).1
    have hsame := readTo_append_of_ok (b.drop m) hfront
    rw [hwhole, h] at hsame
    cases hsame
    rw [List.length_take] at hshort
    omega
  | error e =>
    by_cases he : e = .incomplete
    · rw [he]
    · have hsame := readTo_append_of_error (b.drop m) hfront he
      rw [hwhole, h] at hsame
      cases hsame

/-- An array of an integer after a byte string that holds a line end, and whose length is announced
    by this digit. -/
def pair (length : UInt8) : Bytes :=
  [42, 50, 13, 10, 36, length, 13, 10, 13, 10, 13, 10, 58, 55, 13, 10]

theorem readTo_stable_pair :
    readTo (pair 50 ++ [36]) = .ok (.array [.bulk Bytes.crlf, .integer 7], 16) ∧
    readTo ((pair 50).take 12) = .error .incomplete ∧
    readTo (pair 48 ++ [36]) = .error (.unknownKind 13) := by
  obtain ⟨hmore, -, hcut⟩ := readTo_stable (pair 50) [36]
  obtain ⟨-, hfault, -⟩ := readTo_stable (pair 48) [36]
  have hread : readTo (pair 50) = .ok (.array [.bulk Bytes.crlf, .integer 7], 16) := rfl
  exact ⟨hmore _ _ hread, (hcut _ _ hread).2 12 (by decide), hfault _ rfl (by decide)⟩

end Reply

/-! ## Reading by position -/

namespace Frame

/-- Something that is done with positions while a frame is read. -/
inductive Step where
  /-- A call begins that reads a frame which stands inside so many arrays. -/
  | call (depth : Nat)
  /-- The cursor goes to another position. -/
  | move (stop : Nat)
  /-- Two numbers are added. -/
  | sum (a b : Nat)
  /-- The bytes from one position up to another are looked at. -/
  | slice (start stop : Nat)
  /-- A round begins of the loop over the items of an array, which stand from `start` on. Rounds are
      counted from one. -/
  | round (start number : Nat)
  /-- A frame that begins at `start` has been read. -/
  | frame (start : Nat)
  deriving DecidableEq, Repr

namespace Step

/-- What is asked of a step in a buffer of so many bytes, the cursor being at a position: at most
    129 calls are open, the cursor does not go back and nothing leaves the buffer, a sum is a word
    of 64 bits, the rounds of a loop are at most one more than a third of the bytes that its items
    had, and a frame has taken three bytes at least. -/
def Sound (length position : Nat) : Step → Prop
  | .call depth => depth + 1 ≤ 129
  | .move stop => position ≤ stop ∧ stop ≤ length
  | .sum a b => a + b < UInt64.size
  | .slice start stop => start ≤ stop ∧ stop ≤ length
  | .round start number => number ≤ (length - start) / 3 + 1
  | .frame start => start + 3 ≤ position

/-- Where the cursor is after a step. -/
def goOn (position : Nat) : Step → Nat
  | .move stop => stop
  | _ => position

/-- Sound steps, one after the other, from one position to another. -/
inductive Leads (length : Nat) : (start : Nat) → List Step → (stop : Nat) → Prop
  | refl {position : Nat} : Leads length position [] position
  | cons {position stop : Nat} {s : Step} {steps : List Step} (sound : s.Sound length position)
    (rest : Leads length (s.goOn position) steps stop) : Leads length position (s :: steps) stop

theorem Leads.append {length start middle stop : Nat} {steps more : List Step}
    (h : Leads length start steps middle) (h' : Leads length middle more stop) :
    Leads length start (steps ++ more) stop := by
  induction h with
  | refl => exact h'
  | cons sound _ ih => exact .cons sound (ih h')

end Step

/-- A position in a buffer, and the steps that have led there. -/
structure Cursor where
  buffer : Bytes
  position : Nat
  steps : List Step
  deriving DecidableEq, Repr

namespace Cursor

/-- The bytes behind the position. -/
def rest (c : Cursor) : Bytes := c.buffer.drop c.position

/-- The cursor after a step. -/
def after (c : Cursor) (s : Step) : Cursor :=
  { c with position := s.goOn c.position, steps := c.steps ++ [s] }

end Cursor

/-- Reading by position. Where it fails, the cursor stays where it was last. -/
abbrev Scan (α : Type) := EStateM FrameFault Cursor α

namespace Scan

/-! ### What is done with positions -/

/-- Does a step. -/
def take (s : Step) : Scan Unit := modify fun c => c.after s

/-- Adds two numbers. -/
def sum (a b : Nat) : Scan Nat := do
  take (.sum a b)
  return a + b

/-- The bytes from one position up to another. -/
def slice (start stop : Nat) : Scan Bytes := do
  take (.slice start stop)
  return ((← get).buffer.take stop).drop start

/-! ### The parts of a frame -/

/-- The next byte. -/
def byte : Scan UInt8 := do
  let c ← get
  match c.rest with
  | [] => throw .incomplete
  | first :: _ =>
    take (.move (← sum c.position 1))
    return first

/-- How many bytes stand before the first line end. -/
def lineLength? : Bytes → Option Nat
  | a :: b :: rest =>
    if a = Bytes.cr ∧ b = Bytes.lf then some 0 else (lineLength? (b :: rest)).map (· + 1)
  | [_] | [] => none

/-- A line without its end. -/
def line : Scan Bytes := do
  let c ← get
  match lineLength? (← slice c.position c.buffer.length) with
  | none => throw .incomplete
  | some length =>
    let stop ← sum c.position length
    take (.move (← sum stop 2))
    let found ← slice c.position stop
    return found

/-- A line of text. -/
def text : Scan String := do
  let found ← line
  match Text.ofBytes? found with
  | some s => return s
  | none => throw (.notUtf8 (Text.fault found))

/-- A line that holds an integer. -/
def integer : Scan Int64 := do
  let found ← text
  match Decimal.int64? (Text.toBytes found) with
  | some i => return i
  | none => throw (.badInteger found)

/-- A line that holds a length, or the -1 that stands for null. -/
def length : Scan (Option Nat) := do
  let i ← integer
  if i = -1 then return none
  else if i < 0 then throw (.badLength i)
  else return some i.toInt.toNat

/-- The byte string of a given length, and the line end after it. -/
def exact (length : Nat) : Scan Bytes := do
  let c ← get
  -- both sums come before the length is compared with what is there
  let stop ← sum c.position length
  let behind ← sum stop 2
  if c.buffer.length < behind then throw .incomplete
  else
    let lineEnd ← slice stop behind
    if lineEnd = Bytes.crlf then
      take (.move behind)
      let data ← slice c.position stop
      return data
    else throw .unterminated

/-- A byte string after its kind. -/
def bulk : Scan Reply := do
  match ← length with
  | none => return .nullBulk
  | some length =>
    let data ← exact length
    return .bulk data

/-- As many items as are counted, after those already read (in reverse). The first of all stands at
    `start`. -/
def items (item : Scan Reply) (start : Nat) :
    (count : Nat) → (done : List Reply) → Scan (List Reply)
  | 0, done => return done.reverse
  | count + 1, done => do
    take (.round start (done.length + 1))
    let r ← item
    items item start count (r :: done)

/-- An array after its kind. -/
def array (item : Scan Reply) : Scan Reply := do
  match ← length with
  | none => return .nullArray
  | some count =>
    let c ← get
    let found ← items item c.position count []
    return .array found

/-- What a first byte announces. -/
def content (array : Scan Reply) (first : UInt8) : Scan Reply :=
  match Kind.ofByte? first with
  | none => throw (.unknownKind first)
  | some .status => do
    let s ← text
    return .status s
  | some .error => do
    let s ← text
    return .error s
  | some .integer => do
    let i ← integer
    return .integer i
  | some .bulk => bulk
  | some .array => array

/-- A frame inside so many arrays. -/
def frame (depth : Nat) (array : Scan Reply) : Scan Reply := do
  take (.call depth)
  let c ← get
  let first ← byte
  let r ← content array first
  take (.frame c.position)
  return r

/-- A frame inside `depth` arrays, with room for so many more. -/
def within : (room depth : Nat) → Scan Reply
  | 0, depth => frame depth (throw (.tooDeep maxDepth))
  | room + 1, depth => frame depth (array (within room (depth + 1)))

end Scan

/-! ## Sound scans -/

namespace Cursor

@[simp] theorem buffer_after (c : Cursor) (s : Step) : (c.after s).buffer = c.buffer := rfl

theorem length_rest (c : Cursor) : c.rest.length = c.buffer.length - c.position := List.length_drop

theorem take_rest (c : Cursor) (n : Nat) :
    (c.buffer.take (c.position + n)).drop c.position = c.rest.take n := by
  rw [rest, List.drop_take, Nat.add_sub_cancel_left]

theorem drop_rest (c : Cursor) (n : Nat) : c.rest.drop n = c.buffer.drop (c.position + n) :=
  List.drop_drop

/-- The cursor is in its buffer, which is not too long for positions to be words. -/
structure Fit (c : Cursor) : Prop where
  inside : c.position ≤ c.buffer.length
  short : c.buffer.length < Int64.maxValue.toInt

/-- From `c` the cursor has gone on by at least so many bytes, by sound steps. -/
structure Advances (c : Cursor) (least : Nat) (c' : Cursor) : Prop where
  buffer : c'.buffer = c.buffer
  least : c.position + least ≤ c'.position
  inside : c'.position ≤ c.buffer.length
  steps : ∃ more, c'.steps = c.steps ++ more ∧
    Step.Leads c.buffer.length c.position more c'.position

variable {c c' c'' : Cursor} {m n : Nat}

theorem Fit.word (h : c.Fit) (hn : n ≤ c.buffer.length) : n < UInt64.size := by
  have hmax : Int64.maxValue.toInt = 9223372036854775807 := rfl
  have hsize : UInt64.size = 18446744073709551616 := rfl
  have hshort := h.short
  omega

/-- A position and a length that a peer has announced are added without overflow, and so is a line
    end to them. -/
theorem Fit.sum_lt (h : c.Fit) (hn : n ≤ Int64.maxValue.toInt) :
    c.position + n + 2 < UInt64.size := by
  have hmax : Int64.maxValue.toInt = 9223372036854775807 := rfl
  have hsize : UInt64.size = 18446744073709551616 := rfl
  have hshort := h.short
  have hinside := h.inside
  -- at most one less than the greatest length, that length, and two
  omega

theorem Fit.refl (h : c.Fit) : c.Advances 0 c := ⟨rfl, Nat.le_refl _, h.inside, [], by simp, .refl⟩

theorem Advances.fit (h : c.Advances m c') (hfit : c.Fit) : c'.Fit where
  inside := by
    rw [h.buffer]
    exact h.inside
  short := by
    rw [h.buffer]
    exact hfit.short

theorem Advances.mono (h : c.Advances m c') (hle : n ≤ m) : c.Advances n c' :=
  ⟨h.buffer, Nat.le_trans (Nat.add_le_add_left hle _) h.least, h.inside, h.steps⟩

theorem Advances.trans (h : c.Advances m c') (h' : c'.Advances n c'') :
    c.Advances (m + n) c'' := by
  obtain ⟨more, hmore, hleads⟩ := h.steps
  obtain ⟨more', hmore', hleads'⟩ := h'.steps
  rw [h.buffer] at hleads'
  refine ⟨h'.buffer.trans h.buffer, ?_, h.buffer ▸ h'.inside, more ++ more', ?_,
    hleads.append hleads'⟩
  · have hfirst := h.least
    have hsecond := h'.least
    omega
  · rw [hmore', hmore, List.append_assoc]

theorem advances_after {s : Step} (hsound : s.Sound c.buffer.length c.position)
    (hleast : c.position + m ≤ s.goOn c.position) (hinside : s.goOn c.position ≤ c.buffer.length) :
    c.Advances m (c.after s) :=
  ⟨rfl, hleast, hinside, [s], rfl, .cons hsound .refl⟩

end Cursor

namespace Scan

variable {α β : Type} {c : Cursor} {m n : Nat}

/-- From a fit cursor a scan ends as `out` says, `out` being what a reader answers about the bytes
    behind it. On the way it advances, and by at least so many bytes if it succeeds. -/
def Tracks (c : Cursor) (least : Nat) (scan : Scan α) (out : Except FrameFault (α × Bytes)) :
    Prop :=
  c.Fit → match scan c with
    | .ok a c' => out = .ok (a, c'.rest) ∧ c.Advances least c'
    | .error e c' => out = .error e ∧ c.Advances 0 c'

namespace Tracks

variable {out : Except FrameFault (α × Bytes)} {scan : Scan α}

theorem pure {a : α} {rest : Bytes} (hrest : c.rest = rest) :
    Tracks c 0 (Pure.pure a) (.ok (a, rest)) := by
  intro hfit
  exact ⟨by rw [hrest], hfit.refl⟩

theorem fault (e : FrameFault) : Tracks c m (throw e : Scan α) (.error e) := by
  intro hfit
  exact ⟨rfl, hfit.refl⟩

theorem get {next : Cursor → Scan α} (h : Tracks c m (next c) out) :
    Tracks c m (MonadState.get >>= next) out := h

/-- After a scan that has advanced another one goes on. -/
theorem bind {k : α × Bytes → Except FrameFault (β × Bytes)} {next : α → Scan β}
    (h : Tracks c m scan out)
    (hnext : ∀ a c', scan c = .ok a c' → out = .ok (a, c'.rest) → c.Advances m c' →
      Tracks c' n (next a) (k (a, c'.rest))) :
    Tracks c (m + n) (scan >>= next) (out >>= k) := by
  intro hfit
  have hfirst := h hfit
  show match EStateM.bind scan next c with
    | .ok b c' => (out >>= k) = .ok (b, c'.rest) ∧ c.Advances (m + n) c'
    | .error e c' => (out >>= k) = .error e ∧ c.Advances 0 c'
  unfold EStateM.bind
  cases hrun : scan c with
  | error e c' =>
    rw [hrun] at hfirst
    obtain ⟨hout, hadvances⟩ := hfirst
    exact ⟨by rw [hout]; rfl, hadvances⟩
  | ok a c' =>
    rw [hrun] at hfirst
    obtain ⟨hout, hadvances⟩ := hfirst
    have hsecond := hnext a c' hrun hout hadvances (hadvances.fit hfit)
    have hk : (out >>= k) = k (a, c'.rest) := by rw [hout]; rfl
    rw [hk]
    dsimp only
    cases hrest : next a c' with
    | ok b c'' =>
      rw [hrest] at hsecond
      exact ⟨hsecond.1, hadvances.trans hsecond.2⟩
    | error e c'' =>
      rw [hrest] at hsecond
      exact ⟨hsecond.1, (hadvances.mono (Nat.zero_le m)).trans hsecond.2⟩

/-- After a scan something is done that changes neither what was read nor what is left. -/
theorem finish {next : α → Scan α} (h : Tracks c m scan out)
    (hnext : ∀ a c', c.Advances m c' → Tracks c' 0 (next a) (.ok (a, c'.rest))) :
    Tracks c m (scan >>= next) out := by
  have hout : (out >>= Except.ok) = out := by cases out <;> rfl
  rw [← hout]
  exact h.bind fun a c' _ _ hadvances => hnext a c' hadvances

/-- A scan whose answer is put into something. -/
theorem map {f : α → β} (h : Tracks c m scan out) :
    Tracks c m (scan >>= fun a => Pure.pure (f a)) (out.map fun (a, rest) => (f a, rest)) := by
  have hmap : (out.map fun (a, rest) => (f a, rest)) = out >>= fun p => .ok (f p.1, p.2) := by
    cases out <;> rfl
  rw [hmap]
  exact h.bind (n := 0) fun _ _ _ _ _ => .pure rfl

theorem mono (h : Tracks c m scan out) (hle : n ≤ m) : Tracks c n scan out := by
  intro hfit
  have hends := h hfit
  cases hrun : scan c with
  | ok a c' =>
    rw [hrun] at hends
    exact ⟨hends.1, hends.2.mono hle⟩
  | error e c' =>
    rw [hrun] at hends
    exact hends

/-! ### Steps -/

/-- After a step a scan goes on from where the step has led. -/
theorem take {s : Step} {next : Unit → Scan α} (hsound : c.Fit → s.Sound c.buffer.length c.position)
    (hgoes : c.Fit → c.position + m ≤ s.goOn c.position ∧ s.goOn c.position ≤ c.buffer.length)
    (h : Tracks (c.after s) n (next ()) out) : Tracks c (m + n) (Scan.take s >>= next) out := by
  have htake : Tracks c m (Scan.take s) (.ok ((), (c.after s).rest)) := by
    intro hfit
    obtain ⟨hleast, hinside⟩ := hgoes hfit
    exact ⟨rfl, Cursor.advances_after (hsound hfit) hleast hinside⟩
  refine htake.bind (k := fun _ => out) fun _ c' hrun _ _ => ?_
  cases hrun
  exact h

/-- The cursor goes on by `m` bytes at least. -/
theorem move {stop : Nat} {next : Unit → Scan α} (hleast : c.position + m ≤ stop)
    (hinside : stop ≤ c.buffer.length) (h : Tracks (c.after (.move stop)) 0 (next ()) out) :
    Tracks c m (Scan.take (.move stop) >>= next) out := by
  have hon : c.position ≤ stop := Nat.le_trans (Nat.le_add_right _ _) hleast
  exact take (n := 0) (fun _ => ⟨hon, hinside⟩) (fun _ => ⟨hleast, hinside⟩) h

/-- A step that leaves the cursor where it is. -/
theorem note {s : Step} {next : Unit → Scan α} (hstays : s.goOn c.position = c.position)
    (hsound : c.Fit → s.Sound c.buffer.length c.position)
    (h : Tracks (c.after s) n (next ()) out) : Tracks c n (Scan.take s >>= next) out := by
  rw [← Nat.zero_add n]
  refine take hsound (fun hfit => ?_) h
  rw [hstays]
  exact ⟨Nat.le_refl _, hfit.inside⟩

theorem sum {a b : Nat} {next : Nat → Scan α} (hsound : c.Fit → a + b < UInt64.size)
    (h : Tracks (c.after (.sum a b)) n (next (a + b)) out) :
    Tracks c n (Scan.sum a b >>= next) out := by
  show Tracks c n (Scan.take (.sum a b) >>= fun _ => next (a + b)) out
  exact note rfl hsound h

theorem slice {start stop : Nat} {next : Bytes → Scan α}
    (hsound : c.Fit → start ≤ stop ∧ stop ≤ c.buffer.length)
    (h : Tracks (c.after (.slice start stop)) n (next ((c.buffer.take stop).drop start)) out) :
    Tracks c n (Scan.slice start stop >>= next) out := by
  show Tracks c n
    (Scan.take (.slice start stop) >>= fun _ => next ((c.buffer.take stop).drop start)) out
  exact note rfl hsound h

end Tracks

/-! ### The parts of a frame -/

theorem lineLength?_le {b : Bytes} {length : Nat} (h : lineLength? b = some length) :
    length + 2 ≤ b.length := by
  induction b generalizing length with
  | nil => cases h
  | cons x tail ih =>
    cases tail with
    | nil => cases h
    | cons y tail =>
      rw [lineLength?] at h
      by_cases hend : x = Bytes.cr ∧ y = Bytes.lf
      · rw [if_pos hend] at h
        cases h
        simp
      · rw [if_neg hend] at h
        obtain ⟨shorter, hshorter, rfl⟩ := Option.map_eq_some_iff.mp h
        have hle := ih hshorter
        rw [List.length_cons]
        omega

/-- Where the line end is and what is handed on are two ways of cutting off a line. -/
theorem splitLine_eq (passed b : Bytes) :
    splitLine passed b = (lineLength? b).map fun length =>
      (passed.reverse ++ b.take length, b.drop (length + 2)) := by
  induction b generalizing passed with
  | nil => rfl
  | cons x tail ih =>
    cases tail with
    | nil => rfl
    | cons y tail =>
      rw [splitLine, lineLength?]
      by_cases hend : x = Bytes.cr ∧ y = Bytes.lf
      · rw [if_pos hend, if_pos hend]
        simp
      · rw [if_neg hend, if_neg hend, ih]
        cases lineLength? (y :: tail) <;> simp

theorem line_tracks : Tracks c 2 line (readLine c.rest) := by
  refine .get (.slice (fun hfit => ⟨hfit.inside, Nat.le_refl _⟩) ?_)
  -- what is searched for a line end are the bytes behind the position
  rw [List.take_length]
  show Tracks _ 2 (match lineLength? c.rest with
    | none => _
    | some length => _) (readLine c.rest)
  rw [readLine, splitLine_eq]
  cases hlength : lineLength? c.rest with
  | none => exact .fault _
  | some length =>
    have hle := lineLength?_le hlength
    rw [Cursor.length_rest] at hle
    have hstop : c.position + length + 2 ≤ c.buffer.length := by omega
    have hend : c.position + length ≤ c.buffer.length := Nat.le_of_add_right_le hstop
    refine .sum (fun hfit => hfit.word hend) (.sum (fun hfit => hfit.word hstop) ?_)
    refine .move (Nat.add_le_add_right (Nat.le_add_right _ _) 2) hstop ?_
    refine .slice (fun _ => ⟨Nat.le_add_right _ _, hend⟩) ?_
    simp only [Cursor.buffer_after, Cursor.take_rest]
    exact .pure (c.drop_rest (length + 2)).symm

theorem text_tracks : Tracks c 2 text (readText c.rest) := by
  refine line_tracks.bind (n := 0) ?_
  intro found c' _ _ _
  dsimp only
  cases Text.ofBytes? found with
  | none => exact .fault _
  | some s => exact .pure rfl

theorem integer_tracks : Tracks c 2 integer (readInteger c.rest) := by
  refine text_tracks.bind (n := 0) ?_
  intro found c' _ _ _
  dsimp only
  cases Decimal.int64? (Text.toBytes found) with
  | none => exact .fault _
  | some i => exact .pure rfl

theorem length_tracks : Tracks c 2 length (readLength c.rest) := by
  refine integer_tracks.bind (n := 0) ?_
  intro i c' _ _ _
  dsimp only
  by_cases hnull : i = -1
  · rw [if_pos hnull, if_pos hnull]
    exact .pure rfl
  · rw [if_neg hnull, if_neg hnull]
    by_cases hneg : i < 0
    · rw [if_pos hneg, if_pos hneg]
      exact .fault _
    · rw [if_neg hneg, if_neg hneg]
      exact .pure rfl

/-- Whether the bytes of a byte string are all there, and a line end after them. -/
theorem readExact_eq (n : Nat) (b : Bytes) :
    readExact n b =
      if b.length < n + 2 then .error .incomplete
      else if (b.drop n).take 2 = Bytes.crlf then .ok (b.take n, b.drop (n + 2))
      else .error .unterminated := by
  have hlength : (b.drop n).length = b.length - n := List.length_drop
  have hrest : b.drop (n + 2) = (b.drop n).drop 2 := List.drop_drop.symm
  rw [readExact, hrest]
  generalize b.drop n = behind at hlength
  by_cases hshort : b.length < n + 2
  · have hfew : behind.length < 2 := by omega
    rw [if_pos hshort]
    cases behind with
    | nil => rfl
    | cons x tail =>
      cases tail with
      | nil => rfl
      | cons y rest => exact absurd hfew (by simp)
  · have hmany : 2 ≤ behind.length := by omega
    rw [if_neg hshort]
    cases behind with
    | nil => exact absurd hmany (by simp)
    | cons x tail =>
      cases tail with
      | nil => exact absurd hmany (by simp)
      | cons y rest => simp [Bytes.crlf]

theorem exact_tracks (hn : n ≤ Int64.maxValue.toInt) :
    Tracks c 2 (exact n) (readExact n c.rest) := by
  refine .get (.sum (fun hfit => Nat.lt_of_add_right_lt (hfit.sum_lt hn))
    (.sum (fun hfit => hfit.sum_lt hn) ?_))
  have hrest := c.length_rest
  rw [readExact_eq]
  by_cases hshort : c.buffer.length < c.position + n + 2
  · rw [if_pos hshort, if_pos (by omega)]
    exact .fault _
  · have hstop : c.position + n + 2 ≤ c.buffer.length := Nat.not_lt.mp hshort
    have hend : c.position + n ≤ c.buffer.length := Nat.le_of_add_right_le hstop
    rw [if_neg hshort, if_neg (by omega)]
    refine .slice (fun _ => ⟨Nat.le_add_right _ _, hstop⟩) ?_
    have hbehind : (c.buffer.take (c.position + n + 2)).drop (c.position + n)
        = (c.rest.drop n).take 2 := by
      rw [List.drop_take, Nat.add_sub_cancel_left, c.drop_rest]
    simp only [Cursor.buffer_after, hbehind]
    by_cases hterminated : (c.rest.drop n).take 2 = Bytes.crlf
    · rw [if_pos hterminated, if_pos hterminated]
      refine .move (Nat.add_le_add_right (Nat.le_add_right _ _) 2) hstop ?_
      refine .slice (fun _ => ⟨Nat.le_add_right _ _, hend⟩) ?_
      simp only [Cursor.buffer_after, Cursor.take_rest]
      exact .pure (c.drop_rest (n + 2)).symm
    · rw [if_neg hterminated, if_neg hterminated]
      exact .fault _

theorem bulk_tracks : Tracks c 2 bulk (readBulk c.rest) := by
  refine length_tracks.bind (n := 0) ?_
  intro found c' _ hfound _
  cases found with
  | none => exact .pure rfl
  | some n =>
    obtain ⟨-, -, hn, -⟩ := readLength_eq_some_iff.mp hfound
    refine Tracks.mono (m := 2 + 0) ?_ (Nat.zero_le _)
    exact (exact_tracks hn).bind fun data c'' _ _ _ => .pure rfl

/-! ### Arrays -/

section

variable {item : Scan Reply} {reader : Reader Reply}

/-- Each item takes three bytes at least, so a loop that has come to another round has passed three
    bytes for each round before. This is the invariant; the rest of a count that no bytes are there
    for is never counted down. -/
theorem items_tracks (hitem : ∀ c, Tracks c 3 item (reader c.rest)) {start : Nat} (count : Nat)
    (done : List Reply) (c : Cursor) (hpassed : start + 3 * done.length ≤ c.position) :
    Tracks c 0 (items item start count done) (readItems reader count done c.rest) := by
  induction count generalizing done c with
  | zero => exact .pure rfl
  | succ count ih =>
    have hreader : readItems reader (count + 1) done c.rest =
        reader c.rest >>= fun p => readItems reader count (p.1 :: done) p.2 := by
      rw [readItems]
      cases reader c.rest <;> rfl
    rw [hreader]
    refine .note rfl ?_ (Tracks.mono (m := 3 + 0) ?_ (Nat.zero_le _))
    · intro hfit
      have hinside := hfit.inside
      -- the items that were read lie between `start` and the cursor
      show done.length + 1 ≤ (c.buffer.length - start) / 3 + 1
      omega
    · refine (hitem _).bind ?_
      intro r c' _ _ hadvances
      refine ih (r :: done) c' ?_
      have hleast : c.position + 3 ≤ c'.position := hadvances.least
      rw [List.length_cons]
      omega

theorem array_tracks (hitem : ∀ c, Tracks c 3 item (reader c.rest)) :
    Tracks c 2 (array item) (readArray reader c.rest) := by
  refine length_tracks.bind (n := 0) ?_
  intro found c' _ _ _
  cases found with
  | none => exact .pure rfl
  | some count =>
    refine .get ((items_tracks hitem count [] c' (Nat.le_refl _)).bind (n := 0) ?_)
    intro replies c'' _ _ _
    exact .pure rfl

end

/-! ### Frames -/

section

variable {array : Scan Reply} {reader : Reader Reply}

/-- Reads the byte that announces a kind. -/
def readByte : Reader UInt8
  | [] => .error .incomplete
  | first :: rest => .ok (first, rest)

theorem readFrame_eq (b : Bytes) :
    readFrame reader b = readByte b >>= fun p => readFrame reader (p.1 :: p.2) := by
  cases b <;> rfl

theorem byte_tracks : Tracks c 1 byte (readByte c.rest) := by
  refine .get ?_
  cases hrest : c.rest with
  | nil => exact .fault _
  | cons first rest =>
    have hlength := c.length_rest
    rw [hrest, List.length_cons] at hlength
    have hinside : c.position + 1 ≤ c.buffer.length := by omega
    refine .sum (fun hfit => hfit.word hinside) (.move (Nat.le_refl _) hinside (.pure ?_))
    show c.buffer.drop (c.position + 1) = rest
    rw [← c.drop_rest, hrest]
    rfl

theorem content_tracks (harray : ∀ c, Tracks c 2 array (reader c.rest)) (first : UInt8) :
    Tracks c 2 (content array first) (readFrame reader (first :: c.rest)) := by
  rw [content, readFrame]
  cases Kind.ofByte? first with
  | none => exact .fault _
  | some kind =>
    cases kind with
    | status => exact text_tracks.map
    | error => exact text_tracks.map
    | integer => exact integer_tracks.map
    | bulk => exact bulk_tracks
    | array => exact harray c

theorem frame_tracks {depth : Nat} (hdepth : depth ≤ 128)
    (harray : ∀ c, Tracks c 2 array (reader c.rest)) :
    Tracks c 3 (frame depth array) (readFrame reader c.rest) := by
  refine .note rfl (fun _ => Nat.succ_le_succ hdepth) (.get ?_)
  show Tracks _ 3 _ (readFrame reader c.rest)
  rw [readFrame_eq]
  refine byte_tracks.bind (n := 2) ?_
  intro first c' _ _ hfirst
  refine (content_tracks harray first).finish ?_
  intro r c'' hcontent
  refine .note rfl ?_ (.pure rfl)
  intro _
  have hbyte : c.position + 1 ≤ c'.position := hfirst.least
  have hrest : c'.position + 2 ≤ c''.position := hcontent.least
  show c.position + 3 ≤ c''.position
  omega

/-- The room for arrays and the arrays that are open are 128 together, in every call. -/
theorem within_tracks (room depth : Nat) (hroom : room + depth = 128) (c : Cursor) :
    Tracks c 3 (within room depth) (Reply.readWithin room c.rest) := by
  induction room generalizing depth c with
  | zero =>
    -- the kind is a fault here: no length is read and no further call begins
    exact frame_tracks (by omega) fun c => .fault _
  | succ room ih =>
    exact frame_tracks (by omega) fun c => array_tracks fun c => ih (depth + 1) (by omega) c

end

end Scan

end Frame

namespace Reply

open RespLink.Frame (Cursor Scan Step)

/-- Reads the reply that begins at a position of a buffer. -/
def scan (b : Bytes) (start : Nat) : EStateM.Result FrameFault Cursor Reply :=
  Scan.within Frame.maxDepth 0 ⟨b, start, []⟩

/-- Reading by position is reading the bytes from there on, and never does harm: the cursor goes on
    and stays in the buffer, sums are words, no bytes outside the buffer are looked at, no loop has
    a round for which there are no bytes, but the last, and at most 129 calls are open. -/
theorem scan_sound {b : Bytes} {start : Nat} (hstart : start ≤ b.length)
    (hshort : b.length < Int64.maxValue.toInt) :
    ∃ c : Cursor, c.buffer = b ∧ c.position ≤ b.length ∧
      Step.Leads b.length start c.steps c.position ∧
      ((∃ r, scan b start = .ok r c ∧ start + 3 ≤ c.position ∧
        Reply.read (b.drop start) = .ok (r, b.drop c.position)) ∨
        ∃ e, scan b start = .error e c ∧ Reply.read (b.drop start) = .error e) := by
  have hends := Scan.within_tracks Frame.maxDepth 0 rfl ⟨b, start, []⟩ ⟨hstart, hshort⟩
  cases hscan : Scan.within Frame.maxDepth 0 ⟨b, start, []⟩ with
  | ok r c =>
    rw [hscan] at hends
    obtain ⟨hread, hadvances⟩ := hends
    obtain ⟨more, hsteps, hleads⟩ := hadvances.steps
    have hbuffer : c.buffer = b := hadvances.buffer
    refine ⟨c, hbuffer, hadvances.inside, ?_, .inl ⟨r, hscan, hadvances.least, ?_⟩⟩
    · rw [hsteps]
      exact hleads
    · have hrest : c.rest = b.drop c.position := by rw [Cursor.rest, hbuffer]
      rw [← hrest]
      exact hread
  | error e c =>
    rw [hscan] at hends
    obtain ⟨hread, hadvances⟩ := hends
    obtain ⟨more, hsteps, hleads⟩ := hadvances.steps
    refine ⟨c, hadvances.buffer, hadvances.inside, ?_, .inr ⟨e, hscan, hread⟩⟩
    rw [hsteps]
    exact hleads

/-- Three items are announced. The second has the greatest length there is, and two of its bytes
    have arrived. -/
def greedy : Bytes :=
  [42, 51, 13, 10, 58, 49, 13, 10, 36, 57, 50, 50, 51, 51, 55, 50, 48, 51, 54, 56, 53, 52, 55, 55,
    53, 56, 48, 55, 13, 10, 97, 98]

theorem scan_sound_greedy :
    ∃ c : Cursor, scan greedy 0 = .error .incomplete c ∧ Step.round 4 2 ∈ c.steps ∧
      Step.sum 30 9223372036854775807 ∈ c.steps ∧
      Step.Leads greedy.length 0 c.steps c.position := by
  obtain ⟨c, -, -, hleads, ⟨r, hscan, -, -⟩ | ⟨e, hscan, -⟩⟩ :=
    scan_sound (b := greedy) (Nat.zero_le _) (by decide)
  · cases hscan
  · refine ⟨c, ?_, ?_, ?_, hleads⟩
    all_goals cases hscan
    · rfl
    · decide
    · decide

end Reply

end RespLink
