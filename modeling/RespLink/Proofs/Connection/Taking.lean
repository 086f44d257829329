import RespLink.Connection.Listening
import RespLink.Proofs.Connection.Books
import RespLink.Proofs.Connection.Leaves
import RespLink.Proofs.Push.Audience

/-!
# Taking — what a connection does with the frames of push mode

In push mode frames are taken one after the other until one is of interest, or all of them until
there is nothing more to listen for. Either way push mode ends with the frame that acknowledges that
nothing is subscribed, and no frame is taken after it. `Connection.Took` says so of all the frames
that were taken from one state to another, and can be put together frame by frame.

Whatever else becomes of the frames, of the events and of the handlers, does not matter to it.
-/

namespace RespLink

/-- The counts that are acknowledged from one answer on up to another. -/
def countsBetween (answers : List Answer) (read read' : Nat) : List Nat :=
  ((answers.drop read).take (read' - read)).filterMap fun a => a.reply.count?

section

variable {answers : List Answer} {read : Nat}

theorem countsBetween_all (answers : List Answer) :
    countsBetween answers 0 answers.length = answers.filterMap fun a => a.reply.count? := by
  simp [countsBetween]

theorem countsBetween_self (answers : List Answer) (read : Nat) :
    countsBetween answers read read = [] := by
  simp [countsBetween]

theorem countsBetween_succ {r : Reply} (h : (answers[read]?).map Answer.reply = some r) :
    countsBetween answers read (read + 1) = r.count?.toList := by
  obtain ⟨a, ha, rfl⟩ := Option.map_eq_some_iff.mp h
  obtain ⟨hlt, ha⟩ := List.getElem?_eq_some_iff.mp ha
  rw [countsBetween, Nat.add_sub_cancel_left, List.drop_eq_getElem_cons hlt, ha]
  cases hcount : a.reply.count? <;> simp [hcount]

theorem takenBetween_append {m n : Nat} (hm : read ≤ m) (hn : m ≤ n) :
    (answers.drop read).take (n - read) =
      (answers.drop read).take (m - read) ++ (answers.drop m).take (n - m) := by
  have hsplit : n - read = (m - read) + (n - m) := by omega
  rw [hsplit, List.take_add, List.drop_drop, Nat.add_sub_cancel' hm]

theorem countsBetween_append {m n : Nat} (hm : read ≤ m) (hn : m ≤ n) :
    countsBetween answers read n = countsBetween answers read m ++ countsBetween answers m n := by
  rw [countsBetween, takenBetween_append hm hn, List.filterMap_append]
  rfl

end

namespace Connection

variable {answers : List Answer} {underway : Bytes} {accepted : List Command}
  {read read' n : Nat} {c c' c₁ : Connection}

theorem lasting_active : Lasting fun c => c.subscription.active = true where
  wire _ _ _ h := h
  tainted {c} e h := by
    unfold Connection.tainted
    split
    · exact h
    · exact h

/-- From `c` to `c'` the frames up to `read'` were taken. A connection that was in push mode still
    is if they acknowledge no zero; and otherwise the last of them is the first that does. -/
structure Took (answers : List Answer) (underway : Bytes) (accepted : List Command)
    (c : Connection) (read read' : Nat) (c' : Connection) : Prop where
  le : read ≤ read'
  books : Books answers underway accepted read' c'
  inTransaction : c'.inTransaction = c.inTransaction
  pipeline : c'.pipeline = c.pipeline
  stayed : c.subscription.active = true → c'.subscription.active = true →
    ∀ k ∈ countsBetween answers read read', 0 < k
  left : c.subscription.active = true → c'.subscription.active = false →
    ∃ more, countsBetween answers read read' = more ++ [0] ∧ ∀ k ∈ more, 0 < k
  last : c.subscription.active = true → c'.subscription.active = false →
    ∃ a, ((answers.drop read).take (read' - read)).getLast? = some a ∧ a.reply.count? = some 0

theorem Took.same (h : Books answers underway accepted read c') (hmode : SameMode c c') :
    Took answers underway accepted c read read c' where
  le := Nat.le_refl read
  books := h
  inTransaction := hmode.inTransaction
  pipeline := hmode.pipeline
  stayed _ _ k hk := by
    rw [countsBetween_self] at hk
    exact absurd hk List.not_mem_nil
  left hactive hidle := by
    rw [hmode.subscription, hactive] at hidle
    cases hidle
  last hactive hidle := by
    rw [hmode.subscription, hactive] at hidle
    cases hidle

theorem Took.frame {r : Reply} (h : Books answers underway accepted (read + 1) c₁)
    (hmode : SameMode c c₁) (hr : (answers[read]?).map Answer.reply = some r) :
    Took answers underway accepted c read (read + 1)
      { c₁ with subscription := (c₁.subscription.apply r).2 } := by
  have hcounts := countsBetween_succ hr
  have hactive₁ := Subscription.active_apply c₁.subscription r
  rw [hmode.subscription] at hactive₁
  have hzero (hactive : c.subscription.active = true)
      (hidle : (c₁.subscription.apply r).2.active = false) : r.count? = some 0 := by
    rw [hmode.subscription, hactive₁, hactive] at hidle
    cases hcount : r.count? with
    | none =>
      rw [hcount] at hidle
      cases hidle
    | some k =>
      rw [hcount] at hidle
      have hk : k = 0 := by simpa using hidle
      rw [hk]
  refine ⟨Nat.le_succ read, ⟨h.unread, h.read_le, h.sent⟩, hmode.inTransaction, hmode.pipeline,
    ?_, ?_, ?_⟩
  · intro hactive hstill k hk
    have hstill : (c₁.subscription.apply r).2.active = true := hstill
    rw [hcounts] at hk
    rw [hmode.subscription, hactive₁, Option.mem_toList.mp hk] at hstill
    simpa using hstill
  · intro hactive hidle
    refine ⟨[], ?_, fun k hk => absurd hk List.not_mem_nil⟩
    rw [hcounts, hzero hactive hidle]
    rfl
  · intro hactive hidle
    obtain ⟨a, ha, rfl⟩ := Option.map_eq_some_iff.mp hr
    obtain ⟨hlt, ha⟩ := List.getElem?_eq_some_iff.mp ha
    refine ⟨a, ?_, hzero hactive hidle⟩
    rw [Nat.add_sub_cancel_left, List.drop_eq_getElem_cons hlt, ha]
    rfl

/-- More frames were taken while push mode lasted. -/
theorem Took.trans (h : Took answers underway accepted c read n c₁)
    (hactive₁ : c.subscription.active = true → c₁.subscription.active = true)
    (h' : Took answers underway accepted c₁ n read' c') :
    Took answers underway accepted c read read' c' := by
  have hcounts : countsBetween answers read read' =
      countsBetween answers read n ++ countsBetween answers n read' :=
    countsBetween_append h.le h'.le
  refine ⟨Nat.le_trans h.le h'.le, h'.books, h'.inTransaction.trans h.inTransaction,
    h'.pipeline.trans h.pipeline, ?_, ?_, ?_⟩
  · intro hactive hstill k hk
    rw [hcounts] at hk
    rcases List.mem_append.mp hk with hbefore | hafter
    · exact h.stayed hactive (hactive₁ hactive) k hbefore
    · exact h'.stayed (hactive₁ hactive) hstill k hafter
  · intro hactive hidle
    obtain ⟨more, hmore, hpositive⟩ := h'.left (hactive₁ hactive) hidle
    refine ⟨countsBetween answers read n ++ more, by rw [hcounts, hmore, List.append_assoc], ?_⟩
    intro k hk
    rcases List.mem_append.mp hk with hbefore | hafter
    · exact h.stayed hactive (hactive₁ hactive) k hbefore
    · exact hpositive k hafter
  · intro hactive hidle
    obtain ⟨a, ha, hzero⟩ := h'.last (hactive₁ hactive) hidle
    refine ⟨a, ?_, hzero⟩
    rw [takenBetween_append h.le h'.le, List.getLast?_append, ha]
    rfl

/-- Reports are nothing that was taken. -/
theorem Took.report (h : Took answers underway accepted c read read' c')
    (mailbox : Option Mailbox) (handled : List Handled) :
    Took answers underway accepted c read read' { c' with mailbox, handled } :=
  ⟨h.le, ⟨h.books.unread, h.books.read_le, h.books.sent⟩, h.inTransaction, h.pipeline, h.stayed,
    h.left, h.last⟩

/-- How taking frames ends without success: push mode goes on, and either the connection is tainted
    or the last frame was no pushed frame. -/
def TookInVain (answers : List Answer) (underway : Bytes) (accepted : List Command)
    (c : Connection) (read : Nat) (e : Error) (c' : Connection) : Prop :=
  c'.subscription.active = true ∧
    (Taints e c' ∨ ∃ read', Took answers underway accepted c read read' c')

/-- What goes on taking frames after some were taken has taken all of them. -/
theorem Took.onward {α : Type} {act : Act α} (h : Took answers underway accepted c read n c₁)
    (hactive₁ : c₁.subscription.active = true)
    (hact : act.Ensures c₁ (fun _ c' => ∃ read', Took answers underway accepted c₁ n read' c')
      (TookInVain answers underway accepted c₁ n)) :
    act.Ensures c₁ (fun _ c' => ∃ read', Took answers underway accepted c read read' c')
      (TookInVain answers underway accepted c read) := by
  refine hact.mono ?_ ?_
  · rintro _ c' ⟨read', htook⟩
    exact ⟨read', h.trans (fun _ => hactive₁) htook⟩
  · rintro e c' ⟨hactive', htaints | ⟨read', htook⟩⟩
    · exact ⟨hactive', Or.inl htaints⟩
    · exact ⟨hactive', Or.inr ⟨read', h.trans (fun _ => hactive₁) htook⟩⟩

theorem applyPush_ensures (c : Connection) (r : Reply) :
    (applyPush r).Ensures c
      (fun event c' => c' = { c with subscription := (c.subscription.apply r).2 } ∧
        (c.subscription.apply r).1 = .ok event)
      (fun _ c' => c' = { c with subscription := (c.subscription.apply r).2 } ∧
        (c.subscription.apply r).2 = c.subscription) := by
  unfold applyPush
  refine .get (.bind (.set ?_))
  split
  · rename_i event hevent
    exact .pure ⟨rfl, hevent⟩
  · rename_i e he
    exact .raise ⟨rfl, Subscription.eq_of_apply_error he⟩

theorem nextPushWithin_ensures (fuel : Nat) (h : Books answers underway accepted read c)
    (hclean : c.taint = none) (hactive : c.subscription.active = true) :
    (nextPushWithin fuel).Ensures c
      (fun _ c' => ∃ read', Took answers underway accepted c read read' c')
      (TookInVain answers underway accepted c read) := by
  induction fuel generalizing read c with
  | zero => trivial
  | succ fuel ih =>
    apply Act.Ensures.usable hclean
    refine .get (.guard (fun hidle => absurd hidle (by simp [hactive])) fun _ => ?_)
    refine .bind (((readReply_ensures h).and_leaves
      (readReply_leaves lasting_active hactive)).mono ?_ ?_)
    · rintro r c₁ ⟨⟨hbooks, hmode, -, hr⟩, hactive₁⟩
      have hframe := Took.frame hbooks hmode hr
      refine .bind ((applyPush_ensures c₁ r).mono ?_ ?_)
      · rintro event c₂ ⟨rfl, hevent⟩
        cases event with
        | some event => exact .pure ⟨read + 1, hframe⟩
        | none =>
          -- a pong: nothing has changed, and the next frame is looked at
          rw [Subscription.eq_of_apply_silent hevent] at hframe ⊢
          exact hframe.onward hactive₁
            (ih hframe.books (hmode.taint.trans hclean) hactive₁)
      · rintro e c₂ ⟨rfl, hsame⟩
        refine ⟨?_, Or.inr ⟨read + 1, hframe⟩⟩
        rw [hsame]
        exact hactive₁
    · rintro e c₁ ⟨htaints, hactive₁⟩
      exact ⟨hactive₁, Or.inl htaints⟩

theorem nextPush_ensures (h : Books answers underway accepted read c)
    (hclean : c.taint = none) (hactive : c.subscription.active = true) :
    nextPush.Ensures c
      (fun _ c' => ∃ read', Took answers underway accepted c read read' c')
      (TookInVain answers underway accepted c read) :=
  nextPushWithin_ensures (c.backlog + 2) h hclean hactive

theorem observe_ensures (c : Connection) (e : Event) :
    (observe e).Ensures c (fun _ c' => ∃ mailbox handled, c' = { c with mailbox, handled })
      (fun _ _ => False) := by
  cases e with
  | received m => exact ⟨_, _, rfl⟩
  | changed change => exact ⟨_, _, rfl⟩
  | queued status => exact ⟨_, _, rfl⟩

/-- Where nothing is subscribed there is nothing to listen for. -/
theorem listenWithin_of_idle (stop : Stop) (fuel : Nat) (asked : Bool)
    (hidle : c.subscription.active = false) :
    (listenWithin stop fuel asked).Ensures c (fun _ c' => c' = c) (fun _ _ => False) := by
  cases fuel with
  | zero => trivial
  | succ fuel =>
    refine .get ?_
    rw [if_pos (by simp [hidle])]
    exact .pure rfl

/-- Listening goes on after some frames were taken if push mode does, and is over otherwise. -/
theorem Took.listen {stop : Stop} {fuel : Nat} {asked : Bool}
    (h : Took answers underway accepted c read n c₁)
    (honward : c₁.subscription.active = true → (listenWithin stop fuel asked).Ensures c₁
      (fun _ c' => ∃ read', Took answers underway accepted c₁ n read' c')
      (TookInVain answers underway accepted c₁ n)) :
    (listenWithin stop fuel asked).Ensures c₁
      (fun _ c' => ∃ read', Took answers underway accepted c read read' c')
      (TookInVain answers underway accepted c read) := by
  cases hactive₁ : c₁.subscription.active with
  | false =>
    refine (listenWithin_of_idle stop fuel asked hactive₁).mono ?_ fun _ _ h => h.elim
    rintro _ c' rfl
    exact ⟨n, h⟩
  | true => exact h.onward hactive₁ (honward hactive₁)

theorem listenWithin_ensures (stop : Stop) (fuel : Nat) (asked : Bool)
    (h : Books answers underway accepted read c) (hclean : c.taint = none)
    (hactive : c.subscription.active = true) :
    (listenWithin stop fuel asked).Ensures c
      (fun _ c' => ∃ read', Took answers underway accepted c read read' c')
      (TookInVain answers underway accepted c read) := by
  induction fuel generalizing read c asked with
  | zero => trivial
  | succ fuel ih =>
    refine .get ?_
    rw [if_neg (by simp [hactive])]
    apply Act.Ensures.usable hclean
    split
    · exact .pure ⟨read, .same h (.refl c)⟩
    refine .bind (((nextFrame_ensures h).and_leaves
      (nextFrame_leaves lasting_active hactive)).mono ?_ fun _ _ h => h.1.elim)
    rintro out c₁ ⟨⟨hmode, -, hout⟩, hactive₁⟩
    cases out with
    | ok r =>
      obtain ⟨hbooks, hr⟩ := hout
      have hframe := Took.frame hbooks hmode hr
      refine .bind ((applyPush_ensures c₁ r).mono ?_ ?_)
      · rintro event c₂ ⟨rfl, -⟩
        have hclean₂ : c₁.taint = none := hmode.taint.trans hclean
        cases event with
        | some event =>
          refine .bind ((observe_ensures _ event).mono ?_ fun _ _ h => h.elim)
          rintro stopped c₃ ⟨mailbox, handled, rfl⟩
          have hreported := hframe.report mailbox handled
          exact hreported.listen fun hactive₃ => ih stopped hreported.books hclean₂ hactive₃
        | none => exact hframe.listen fun hactive₂ => ih false hframe.books hclean₂ hactive₂
      · rintro e c₂ ⟨rfl, hsame⟩
        refine ⟨?_, Or.inr ⟨read + 1, hframe⟩⟩
        rw [hsame]
        exact hactive₁
    | error e =>
      obtain ⟨hbooks, hfatal⟩ := hout
      have hfail : (fail e : Act Unit).Ensures c₁
          (fun _ c' => ∃ read', Took answers underway accepted c read read' c')
          (TookInVain answers underway accepted c read) :=
        .fail ⟨lasting_active.tainted e hactive₁, Or.inl (taints_of_isFatal c₁ hfatal)⟩
      cases e with
      | timeout span =>
        refine .get ?_
        split
        · split
          · exact .pure ⟨read, .same hbooks hmode⟩
          · trivial
        · exact hfail
      | _ => exact hfail

theorem listen_ensures (stop : Stop) (h : Books answers underway accepted read c)
    (hclean : c.taint = none) (hactive : c.subscription.active = true) :
    (listen stop).Ensures c
      (fun _ c' => ∃ read', Took answers underway accepted c read read' c')
      (TookInVain answers underway accepted c read) :=
  listenWithin_ensures stop (c.backlog + 2) (stop = .already) h hclean hactive

/-! ## Changes -/

theorem changeSubscription_ensures (h : Books answers underway accepted read c)
    (hclean : c.taint = none) (command : Command) :
    (changeSubscription command).Ensures c
      (fun _ c' => Books answers underway (accepted ++ [command]) read c' ∧
        c'.inTransaction = c.inTransaction ∧ c'.pipeline = c.pipeline ∧
        c'.subscription.active = true)
      (fun e c' => Refused c e c' ∨ Taints e c') := by
  apply Act.Ensures.usable hclean
  refine .get (.guard (fun _ => Or.inl ⟨rfl, _, rfl⟩) fun _ => ?_)
  refine .bind ((transmit_ensures h command).mono ?_ fun _ _ ht => Or.inr ht)
  rintro _ c' ⟨hbooks, hmode, -⟩
  exact .update ⟨⟨hbooks.unread, hbooks.read_le, hbooks.sent⟩, hmode.inTransaction, hmode.pipeline,
    rfl⟩

/-- Asking for a change never ends push mode, whatever becomes of it. -/
theorem changeSubscription_leaves_active (hactive : c.subscription.active = true)
    (command : Command) :
    (changeSubscription command).Leaves c fun c' => c'.subscription.active = true := by
  refine .seq (ensureUsable_leaves hactive) fun _ c₁ hactive₁ => .get ?_
  split
  · exact .seq (.raise hactive₁) fun _ c₂ hactive₂ =>
      .seq (transmit_leaves lasting_active hactive₂ command) fun _ _ _ => .update rfl
  · exact .seq (transmit_leaves lasting_active hactive₁ command) fun _ _ _ => .update rfl

end Connection

end RespLink
