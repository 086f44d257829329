import RespLink.Proofs.Push.Audience
import RespLink.Proofs.Push.Grammar

/-!
# Bookkeeping — a connection that reads on after errors

In push mode anything can come, and what is no pushed frame is an error of the frame and not of the
connection, which may go on reading. What it knows of its subscriptions must then come from the
acknowledgements alone. So a frame either is an acknowledgement, whose count the connection takes
over, or changes nothing, whether it was reported or refused (`Subscription.apply_of_acknowledges`,
`Subscription.apply_of_not_acknowledges`). There is no frame of which only half takes effect.

Over a sequence of frames this leaves the count of the last acknowledgement, if there is any. The
induction is on the frames, from the first: what the rest leaves is known for every beginning, and
the first frame is the last acknowledgement only if the rest has none.
-/

namespace RespLink

/-- A pushed frame tells an event: the change that it acknowledges, with no count below zero, or the
    message that it is. -/
inductive Push.Tells : Push → Event → Prop
  | channel {kind : PushKind} {name : Option String} {count : Int64}
      (hkind : kind.isPattern = false) :
      Tells (.acknowledgement kind name count) (.changed ⟨kind, name, none, max count.toInt 0⟩)
  | pattern {kind : PushKind} {name : Option String} {count : Int64}
      (hkind : kind.isPattern = true) :
      Tells (.acknowledgement kind name count) (.changed ⟨kind, none, name, max count.toInt 0⟩)
  | message (m : Message) : Tells (.message m) (.received m)

/-- A reply is an acknowledgement with a count. -/
def Reply.Acknowledges (r : Reply) (count : Int64) : Prop :=
  ∃ kind name, Push.Spells r (.acknowledgement kind name count)

/-- The last acknowledgement among some frames has a count. -/
def LastAcknowledged (frames : List Reply) (count : Int64) : Prop :=
  ∃ before r after, frames = before ++ r :: after ∧ r.Acknowledges count ∧
    ∀ r' ∈ after, ∀ n, ¬ r'.Acknowledges n

/-- Events are told by frames: in order, one by each that tells any. -/
inductive Reports : List Reply → List Event → Prop
  | nil : Reports [] []
  | told {r : Reply} {push : Push} {e : Event} {rest : List Reply} {events : List Event}
      (hspells : Push.Spells r push) (htells : push.Tells e) (hrest : Reports rest events) :
      Reports (r :: rest) (e :: events)
  | silent {r : Reply} {rest : List Reply} {events : List Event}
      (hsilent : ∀ push e, Push.Spells r push → ¬ push.Tells e) (hrest : Reports rest events) :
      Reports (r :: rest) events

theorem LastAcknowledged.cons {rest : List Reply} {count : Int64} (h : LastAcknowledged rest count)
    (r : Reply) : LastAcknowledged (r :: rest) count := by
  obtain ⟨before, r', after, rfl, hr', hafter⟩ := h
  exact ⟨r :: before, r', after, rfl, hr', hafter⟩

namespace Subscription

variable {s : Subscription} {r : Reply}

/-- Takes in frames one after the other, whatever comes of each: the outcomes, and the subscriptions
    in the end. -/
def applyAll (s : Subscription) : List Reply → List (Except Error (Option Event)) × Subscription
  | [] => ([], s)
  | r :: rest => ((s.apply r).1 :: ((s.apply r).2.applyAll rest).1, ((s.apply r).2.applyAll rest).2)

/-- The event of an outcome, if it has one. -/
def reported? : Except Error (Option Event) → Option Event
  | .ok event => event
  | .error _ => .none

/-! ## One frame -/

theorem take_eq_some_iff {push : Push} {e : Event} : (s.take push).1 = some e ↔ push.Tells e := by
  constructor
  · intro h
    cases push with
    | acknowledgement kind name count =>
      by_cases hkind : kind.isPattern = true
      · simp only [take, hkind, if_true] at h
        cases h
        exact .pattern hkind
      · simp only [take, hkind] at h
        cases h
        exact .channel (Bool.eq_false_iff.mpr hkind)
    | message m =>
      cases h
      exact .message m
    | pong => cases h
  · intro h
    cases h with
    | channel hkind =>
      simp only [take, hkind]
      rfl
    | pattern hkind =>
      simp only [take, hkind, if_true]
      rfl
    | message m => rfl

theorem apply_of_acknowledges {count : Int64} (h : r.Acknowledges count) :
    (s.apply r).2 = s.acknowledge count := by
  obtain ⟨kind, name, hspells⟩ := h
  rw [apply_of_ok (Push.ofReply_eq_ok_iff.mpr hspells)]
  rfl

theorem apply_of_not_acknowledges (h : ∀ n, ¬ r.Acknowledges n) : (s.apply r).2 = s := by
  cases hpush : Push.ofReply r with
  | error e => rw [apply_of_error hpush]
  | ok push =>
    rw [apply_of_ok hpush]
    cases push with
    | acknowledgement kind name count =>
      exact absurd ⟨kind, name, Push.ofReply_eq_ok_iff.mp hpush⟩ (h count)
    | message m => rfl
    | pong => rfl

/-- A frame that is refused or reports nothing changes nothing. -/
theorem eq_of_apply_not_reported (h : ∀ e, (s.apply r).1 ≠ .ok (some e)) : (s.apply r).2 = s := by
  cases houtcome : (s.apply r).1 with
  | error e => exact eq_of_apply_error houtcome
  | ok event =>
    cases event with
    | none => exact eq_of_apply_silent houtcome
    | some e => exact absurd houtcome (h e)

/-- What a frame is reported as is what it tells. -/
theorem reported?_apply (s : Subscription) (r : Reply) :
    (∃ push e, Push.Spells r push ∧ push.Tells e ∧ reported? (s.apply r).1 = some e) ∨
      (∀ push e, Push.Spells r push → ¬ push.Tells e) ∧ reported? (s.apply r).1 = .none := by
  cases hpush : Push.ofReply r with
  | error e =>
    right
    refine ⟨fun push e' hspells => ?_, by rw [apply_of_error hpush]; rfl⟩
    rw [Push.ofReply_eq_ok_iff.mpr hspells] at hpush
    cases hpush
  | ok push =>
    have hspells := Push.ofReply_eq_ok_iff.mp hpush
    have hreported : reported? (s.apply r).1 = (s.take push).1 := by
      rw [apply_of_ok hpush]
      rfl
    cases htake : (s.take push).1 with
    | some e => exact Or.inl ⟨push, e, hspells, take_eq_some_iff.mp htake, hreported.trans htake⟩
    | none =>
      refine Or.inr ⟨fun push' e' hspells' htells => ?_, hreported.trans htake⟩
      obtain rfl := hspells.unique hspells'
      rw [take_eq_some_iff.mpr htells] at htake
      cases htake

/-! ## All frames -/

theorem reports_applyAll (s : Subscription) (frames : List Reply) :
    Reports frames ((s.applyAll frames).1.filterMap reported?) := by
  induction frames generalizing s with
  | nil => exact .nil
  | cons r rest ih =>
    rw [applyAll, List.filterMap_cons]
    rcases reported?_apply s r with ⟨push, e, hspells, htells, hreported⟩ | ⟨hsilent, hreported⟩
    · rw [hreported]
      exact .told hspells htells (ih _)
    · rw [hreported]
      exact .silent hsilent (ih _)

/-- What frames leave of the subscriptions is settled by their last acknowledgement. -/
theorem applyAll_settled (s : Subscription) (frames : List Reply) :
    (∃ count, LastAcknowledged frames count ∧
      (s.applyAll frames).2 = s.acknowledge count) ∨
    (∀ r ∈ frames, ∀ n, ¬ r.Acknowledges n) ∧ (s.applyAll frames).2 = s := by
  induction frames generalizing s with
  | nil => exact Or.inr ⟨by simp, rfl⟩
  | cons r rest ih =>
    by_cases hr : ∃ n, r.Acknowledges n
    · obtain ⟨n, hn⟩ := hr
      have hfirst : (s.apply r).2 = s.acknowledge n := apply_of_acknowledges hn
      left
      rcases ih (s.apply r).2 with ⟨count, hlast, heq⟩ | ⟨hnone, heq⟩
      · refine ⟨count, hlast.cons r, ?_⟩
        -- the count of the first acknowledgement is overwritten
        rw [applyAll, heq, hfirst]
        rfl
      · exact ⟨n, ⟨[], r, rest, rfl, hn, hnone⟩, heq.trans hfirst⟩
    · have hr : ∀ n, ¬ r.Acknowledges n := fun n hn => hr ⟨n, hn⟩
      have hfirst : (s.apply r).2 = s := apply_of_not_acknowledges hr
      rw [applyAll, hfirst]
      rcases ih s with ⟨count, hlast, heq⟩ | ⟨hnone, heq⟩
      · exact Or.inl ⟨count, hlast.cons r, heq⟩
      · exact Or.inr ⟨List.forall_mem_cons.mpr ⟨hr, hnone⟩, heq⟩

/-- Frames that are taken in one after the other, whatever they are and whatever comes of each:

    * one that is refused or reports nothing changes nothing;
    * afterwards the count is that of the last acknowledgement, but not below zero, and the
      connection is in push mode exactly if it is positive; if there was no acknowledgement both are
      what they were;
    * the events are those that the acknowledgements and the messages tell, in order, one each. -/
theorem applyAll_keeps_books (s : Subscription) (frames : List Reply) :
    (∀ (s' : Subscription) (r : Reply), (∀ e, (s'.apply r).1 ≠ .ok (some e)) →
      (s'.apply r).2 = s') ∧
    ((∃ count, LastAcknowledged frames count ∧
        (s.applyAll frames).2.count = max count.toInt 0 ∧
        ((s.applyAll frames).2.active = true ↔ 0 < (s.applyAll frames).2.count)) ∨
      (∀ r ∈ frames, ∀ n, ¬ r.Acknowledges n) ∧ (s.applyAll frames).2.count = s.count ∧
        (s.applyAll frames).2.active = s.active) ∧
    Reports frames ((s.applyAll frames).1.filterMap reported?) := by
  refine ⟨fun s' r => eq_of_apply_not_reported, ?_, reports_applyAll s frames⟩
  rcases applyAll_settled s frames with ⟨count, hlast, heq⟩ | ⟨hnone, heq⟩
  · left
    refine ⟨count, hlast, ?_, ?_⟩
    · rw [heq]
      rfl
    · rw [heq]
      exact decide_eq_true_iff
  · right
    rw [heq]
    exact ⟨hnone, rfl, rfl⟩

end Subscription

end RespLink
