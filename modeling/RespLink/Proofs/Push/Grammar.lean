import RespLink.Proofs.Frame.RoundTrip
import RespLink.Push.Basic

/-!
# Pushed frames as a grammar

`Push.Spells r push` says that a reply is a pushed frame, and which. Its rules list what has to
stand in the array and in which place. All of them leave open what follows, because a reader takes
what it needs from the front and looks no further, and the name of an acknowledgement may be
anything, since it is reported only if it is text.

`Push.ofReply` decides this grammar (`Push.ofReply_eq_ok_iff`), so that what is "well formed" has a
meaning without the reader. The word in front is compared in lower case; beyond that the reader
takes the array apart item by item, and so does the proof.
-/

namespace RespLink

namespace PushKind

/-- The kinds that acknowledge a change of subscriptions. -/
def acknowledging : List PushKind := [.subscribe, .psubscribe, .unsubscribe, .punsubscribe]

/-- A reply is the word of a kind, in letters of either case. -/
def Heads (kind : PushKind) (r : Reply) : Prop :=
  ∃ word, r.text? = some word ∧ word.toLower = kind.word

theorem ofWord?_eq_some_iff {word : String} {kind : PushKind} :
    ofWord? word = some kind ↔ word.toLower = kind.word := by
  constructor
  · intro h
    have hword := List.find?_some h
    exact (beq_iff_eq.mp hword).symm
  · intro h
    unfold ofWord?
    rw [h]
    cases kind <;> decide

end PushKind

namespace Push

/-- A reply carries the bytes of a message, in a byte string or in a line. -/
inductive Carries : Reply → Bytes → Prop
  | bulk (data : Bytes) : Carries (.bulk data) data
  | status (s : String) : Carries (.status s) (Text.toBytes s)

/-- A reply spells a pushed frame. -/
inductive Spells : Reply → Push → Prop
  | acknowledgement {kind : PushKind} {word name : Reply} {count : Int64} {rest : List Reply}
      (hkind : kind ∈ PushKind.acknowledging) (hword : kind.Heads word) :
      Spells (.array (word :: name :: .integer count :: rest))
        (.acknowledgement kind name.text? count)
  | message {word channel payload : Reply} {c : String} {data : Bytes} {rest : List Reply}
      (hword : PushKind.message.Heads word) (hchannel : channel.text? = some c)
      (hpayload : Carries payload data) :
      Spells (.array (word :: channel :: payload :: rest)) (.message ⟨c, none, data⟩)
  | pmessage {word pattern channel payload : Reply} {p c : String} {data : Bytes}
      {rest : List Reply}
      (hword : PushKind.pmessage.Heads word) (hpattern : pattern.text? = some p)
      (hchannel : channel.text? = some c) (hpayload : Carries payload data) :
      Spells (.array (word :: pattern :: channel :: payload :: rest)) (.message ⟨c, some p, data⟩)
  | pong {word : Reply} {rest : List Reply} (hword : PushKind.pong.Heads word) :
      Spells (.array (word :: rest)) .pong

/-! ## What the readers of the items accept -/

theorem payloadItem_cons {payload : Reply} {data : Bytes} (h : Carries payload data)
    (rest : List Reply) : payloadItem (payload :: rest) = .ok data := by
  cases h with
  | bulk data => rfl
  | status s => rfl

theorem payloadItem_eq_ok_iff {items : List Reply} {data : Bytes} :
    payloadItem items = .ok data ↔ ∃ payload rest, items = payload :: rest ∧
      Carries payload data := by
  constructor
  · intro h
    unfold payloadItem at h
    split at h
    · cases h
      exact ⟨_, _, rfl, .bulk _⟩
    · cases h
      exact ⟨_, _, rfl, .status _⟩
    · cases h
  · rintro ⟨payload, rest, rfl, hpayload⟩
    exact payloadItem_cons hpayload rest

theorem textItem_cons {r : Reply} {s : String} (h : r.text? = some s) (expected : Expected)
    (rest : List Reply) : textItem expected (r :: rest) = .ok (s, rest) := by
  simp [textItem, h]

theorem textItem_eq_ok_iff {expected : Expected} {items rest : List Reply} {s : String} :
    textItem expected items = .ok (s, rest) ↔ ∃ r, items = r :: rest ∧ r.text? = some s := by
  constructor
  · intro h
    cases items with
    | nil => cases h
    | cons r items =>
      unfold textItem at h
      dsimp only at h
      cases htext : r.text? with
      | none =>
        rw [htext] at h
        cases h
      | some t =>
        rw [htext] at h
        cases h
        exact ⟨r, rfl, htext⟩
  · rintro ⟨r, rfl, htext⟩
    exact textItem_cons htext expected rest

theorem acknowledged_eq_ok_iff {kind : PushKind} {items : List Reply} {push : Push} :
    acknowledged kind items = .ok push ↔ ∃ name count rest,
      items = name :: .integer count :: rest ∧
        push = .acknowledgement kind name.text? count := by
  constructor
  · intro h
    unfold acknowledged at h
    split at h
    · rename_i count rest hitems
      rcases items with _ | ⟨name, tail⟩
      · simp at hitems
      · rw [List.drop_one, List.tail_cons] at hitems
        subst hitems
        cases h
        exact ⟨name, count, rest, rfl, rfl⟩
    · cases h
  · rintro ⟨name, count, rest, rfl, rfl⟩
    rfl

theorem ofItems_of_acknowledging {kind : PushKind} (h : kind ∈ PushKind.acknowledging)
    (items : List Reply) : ofItems kind items = acknowledged kind items := by
  simp only [PushKind.acknowledging, List.mem_cons, List.not_mem_nil, or_false] at h
  rcases h with rfl | rfl | rfl | rfl <;> rfl

/-! ## What the reader of a frame accepts -/

theorem spells_of_ofItems {kind : PushKind} {word : Reply} {items : List Reply} {push : Push}
    (hword : kind.Heads word) (h : ofItems kind items = .ok push) :
    Spells (.array (word :: items)) push := by
  by_cases hkind : kind ∈ PushKind.acknowledging
  · rw [ofItems_of_acknowledging hkind] at h
    obtain ⟨name, count, rest, rfl, rfl⟩ := acknowledged_eq_ok_iff.mp h
    exact .acknowledgement hkind hword
  · cases kind with
    | message =>
      obtain ⟨⟨c, rest⟩, hchannel, hrest⟩ := Reply.exists_of_bind_ok h
      obtain ⟨data, hpayload, hpush⟩ := Reply.exists_of_bind_ok hrest
      obtain ⟨channel, rfl, hc⟩ := textItem_eq_ok_iff.mp hchannel
      obtain ⟨payload, rest, rfl, hdata⟩ := payloadItem_eq_ok_iff.mp hpayload
      cases hpush
      exact .message hword hc hdata
    | pmessage =>
      obtain ⟨⟨p, rest⟩, hpattern, hrest⟩ := Reply.exists_of_bind_ok h
      obtain ⟨⟨c, rest⟩, hchannel, hrest'⟩ := Reply.exists_of_bind_ok hrest
      obtain ⟨data, hpayload, hpush⟩ := Reply.exists_of_bind_ok hrest'
      obtain ⟨pattern, rfl, hp⟩ := textItem_eq_ok_iff.mp hpattern
      obtain ⟨channel, rfl, hc⟩ := textItem_eq_ok_iff.mp hchannel
      obtain ⟨payload, rest, rfl, hdata⟩ := payloadItem_eq_ok_iff.mp hpayload
      cases hpush
      exact .pmessage hword hp hc hdata
    | pong =>
      cases h
      exact .pong hword
    | _ => exact absurd (by decide) hkind

theorem ofReply_of_heads {kind : PushKind} {word : Reply} (h : kind.Heads word)
    (items : List Reply) : ofReply (.array (word :: items)) = ofItems kind items := by
  obtain ⟨w, htext, hw⟩ := h
  have hkind : PushKind.ofWord? w = some kind := PushKind.ofWord?_eq_some_iff.mpr hw
  simp [ofReply, htext, hkind]

/-- Reading a reply as a pushed frame is deciding what it spells. -/
theorem ofReply_eq_ok_iff {r : Reply} {push : Push} : ofReply r = .ok push ↔ Spells r push := by
  constructor
  · intro h
    unfold ofReply at h
    split at h
    · rename_i items
      split at h
      · rename_i kind hkind
        obtain ⟨w, hw, hnames⟩ := Option.bind_eq_some_iff.mp hkind
        obtain ⟨word, hhead, htext⟩ := Option.bind_eq_some_iff.mp hw
        obtain ⟨rest, rfl⟩ := List.head?_eq_some_iff.mp hhead
        exact spells_of_ofItems ⟨w, htext, PushKind.ofWord?_eq_some_iff.mp hnames⟩ h
      · cases h
    · cases h
    · cases h
  · intro h
    cases h with
    | acknowledgement hkind hword =>
      rw [ofReply_of_heads hword, ofItems_of_acknowledging hkind]
      exact acknowledged_eq_ok_iff.mpr ⟨_, _, _, rfl, rfl⟩
    | message hword hchannel hpayload =>
      rw [ofReply_of_heads hword]
      simp only [ofItems, textItem_cons hchannel, payloadItem_cons hpayload, bind, Except.bind]
      rfl
    | pmessage hword hpattern hchannel hpayload =>
      rw [ofReply_of_heads hword]
      simp only [ofItems, textItem_cons hpattern, textItem_cons hchannel,
        payloadItem_cons hpayload, bind, Except.bind]
      rfl
    | pong hword =>
      rw [ofReply_of_heads hword]
      rfl

/-- A reply spells one frame at most. -/
theorem Spells.unique {r : Reply} {push push' : Push} (h : Spells r push) (h' : Spells r push') :
    push = push' := by
  have heq : Except.ok push = Except.ok push' :=
    (ofReply_eq_ok_iff.mpr h).symm.trans (ofReply_eq_ok_iff.mpr h')
  exact Except.ok.inj heq

end Push

end RespLink
