import RespLink.Hub.Step

/-!
# Running a hub — one order among many

Whoever shares a hub wants answers and not a choice of steps. A *schedule* makes the choice: those
who need not wait for the peer go first, callers before drives and earlier ones before later
ones, and only when nobody else can move is the peer's next frame looked for. Everything here is
a sequence of steps of `Hub.advance` and `Hub.expire`, so that what is known of all orders is
known of this one.
-/

namespace RespLink

namespace Hub

/-- Whether the next step of somebody looks at what the peer has done meanwhile: dialling, where
    that takes a while, and reading, where nothing is buffered. -/
def looksAtPeer (h : Hub) : Task → Bool
  | .caller i =>
    match h.callers[i]? with
    | some ⟨_, .dialing⟩ => h.network ≠ .unreachable
    | some ⟨_, .authenticating⟩ => true
    | _ => false
  | .drive j =>
    match h.drives[j]? with
    | some (.reading _) =>
      match h.inlet.decoder.next with
      | (.ok none, _) => true
      | _ => !h.inlet.ready
    | _ => false
  | .closer _ => false

/-- The callers. -/
def callerTasks (h : Hub) : List Task := (List.range h.callers.length).map .caller

/-- Everybody, in the order of the schedule. -/
def tasks (h : Hub) : List Task :=
  h.callerTasks ++ (List.range h.closers.length).map .closer
    ++ (List.range h.drives.length).map .drive

/-- The first step that some of `tasks` can take and `wanted` admits. -/
def first? (h : Hub) (wanted : Task → Bool) (tasks : List Task) : Option Hub :=
  tasks.findSome? fun t => if wanted t then h.advance t else none

/-- The next step of the schedule. -/
def next? (h : Hub) : Option Hub :=
  match h.first? (fun t => !h.looksAtPeer t) h.tasks with
  | some h' => some h'
  | none => h.first? h.looksAtPeer h.tasks

/-- Takes steps as `next` chooses them until there is none, at most `fuel` of them. -/
def runWithin (next : Hub → Option Hub) : (fuel : Nat) → Hub → Hub
  | 0, h => h
  | fuel + 1, h =>
    match next h with
    | some h' => runWithin next fuel h'
    | none => h

/-- More steps than all who are there can take. -/
def budget (h : Hub) : Nat :=
  let ofCaller (c : Caller) : Nat := match c.errand with
    | .link => 32
    | .call q => 32 + q.command.tokenCount
  h.callers.foldl (fun steps c => steps + ofCaller c) 0 + 8 * h.closers.length +
    32 * h.drives.length + 32

/-- Lets everybody go on as far as they can. -/
def settle (h : Hub) : Hub := runWithin next? h.budget h

/-- Lets callers go on as far as they can without the peer and without a drive. -/
def settleCallers (h : Hub) : Hub :=
  runWithin (fun h => h.first? (fun t => !h.looksAtPeer t) h.callerTasks) h.budget h

/-- Lets callers and closers go on as far as they can without the peer and without a drive. -/
def settleClosers (h : Hub) : Hub :=
  runWithin (fun h => h.first? (fun _ => true) ((List.range h.closers.length).map .closer))
    h.budget h

/-- Somebody enters: their number, and the hub with them. -/
def enter (h : Hub) (errand : Errand) : Nat × Hub :=
  (h.callers.length, { h with callers := h.callers ++ [⟨errand, .entering⟩] })

/-- Several enter together: their numbers, and the hub with them. -/
def enterAll (h : Hub) (errands : List Errand) : List Nat × Hub :=
  (List.range' h.callers.length errands.length,
    { h with callers := h.callers ++ errands.map fun e => ⟨e, .entering⟩ })

/-- Somebody closes the hub. -/
def beginClose (h : Hub) : Hub := { h with closers := h.closers ++ [.failing .taint] }

/-- How it ended for a caller, if it has. -/
def outcome? (h : Hub) (i : Nat) : Option (Except Error (Option Reply)) :=
  match h.callers[i]? with
  | some ⟨_, .finished outcome⟩ => some outcome
  | _ => none

/-- Whether it has ended for all of some callers. -/
def allDone (h : Hub) (callers : List Nat) : Bool := callers.all fun i => (h.outcome? i).isSome

/-- Lets time pass until it has ended for all of some callers, as often as `fuel` says: when
    nobody can go on, the limit on waiting passes for whoever waits for a frame. -/
def awaitWithin (callers : List Nat) : (fuel : Nat) → Hub → Hub
  | 0, h => h.settle
  | fuel + 1, h =>
    let h := h.settle
    if h.allDone callers then h
    else
      match h.tasks.findSome? h.expire with
      | some h' => awaitWithin callers fuel h'
      | none => h

/-- Lets time pass until it has ended for all of some callers, or nothing happens any more. -/
def await (h : Hub) (callers : List Nat) : Hub :=
  awaitWithin callers (h.callers.length + h.drives.length + 1) h

/-- The answer to a request, from how it ended for its caller. -/
def answer (q : Request) : Except Error (Option Reply) → Except Error q.answer.Value
  | .ok (some r) => q.parse r
  | .ok none => .error .connectionClosed
  | .error e => .error e

end Hub

end RespLink
