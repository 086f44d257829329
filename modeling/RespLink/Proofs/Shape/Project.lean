import RespLink.Proofs.Frame.RoundTrip
import RespLink.Shape.Project

/-!
# Projections — how reading a reply as a shape fails

Reading a reply fails for no reason but the reply: the server reported an error in it, or some part
of it is of another kind than expected. Neither concerns the stream, which is why a caller that
cannot use a reply may go on.

Where the server is quoted, the quotation is in the reply: an error that stands somewhere in it, and
the reply itself if that is an error, whatever it is to be read as. The shapes that are built from
others pass on what the reading of an item fails with, so a quotation found in an item is one found
in the array (`Error.StemsFrom.of_item`), and the induction is on the shape.
-/

namespace RespLink

/-- An error that is about one reply and nothing else. -/
inductive Error.AboutReply : Error → Prop
  | server (text : String) : AboutReply (.server text)
  | unexpected (expected : Expected) (actual : Found) :
    AboutReply (.unexpectedReply expected actual)

/-- An error that a reply is the reason of: what the server reported stands in the reply. -/
inductive Error.StemsFrom (r : Reply) : Error → Prop
  | server {n : Nat} {text : String} : r.Part n (.error text) → StemsFrom r (.server text)
  | unexpected (expected : Expected) (actual : Found) :
    StemsFrom r (.unexpectedReply expected actual)

theorem Error.StemsFrom.aboutReply {e : Error} {r : Reply} (h : e.StemsFrom r) : e.AboutReply := by
  cases h with
  | server _ => exact .server _
  | unexpected expected actual => exact .unexpected expected actual

theorem Error.StemsFrom.of_item {e : Error} {r : Reply} {items : List Reply} (h : e.StemsFrom r)
    (hr : r ∈ items) : e.StemsFrom (.array items) := by
  cases h with
  | server hpart => exact .server (.item hr hpart)
  | unexpected expected actual => exact .unexpected expected actual

namespace Shape

variable {e : Error} {r : Reply}

theorem stemsFrom_error (text : String) : (Error.server text).StemsFrom (.error text) :=
  .server (.self _)

theorem stemsFrom_reject (expected : Expected) (r : Reply) :
    (reject expected r).StemsFrom r := by
  unfold reject
  split
  · exact stemsFrom_error _
  · exact .unexpected _ _

theorem stemsFrom_of_orReject {α : Type} {expected : Expected} {value : Option α}
    (h : orReject expected r value = .error e) : e.StemsFrom r := by
  cases value with
  | none =>
    cases h
    exact stemsFrom_reject expected r
  | some value => cases h

theorem stemsFrom_of_ite {α : Type} {p : Prop} [Decidable p] {expected : Expected} {value : α}
    (h : (if p then .ok value else .error (reject expected r)) = Except.error e) :
    e.StemsFrom r := by
  split at h
  · cases h
  · cases h
    exact stemsFrom_reject expected r

theorem stemsFrom_of_binaryBulk {value : Option String}
    (h : (match value with
      | some s => .ok s
      | none => .error (Error.unexpectedReply .utf8Text .binaryBulk)) = Except.error e) :
    e.StemsFrom r := by
  cases value with
  | some s => cases h
  | none =>
    cases h
    exact .unexpected _ _

theorem project_pair (first second : Shape) (a b : Reply) :
    project (.pair first second) (.array [a, b]) =
      match project first a with
      | .error e => .error e
      | .ok x => match project second b with
        | .error e => .error e
        | .ok y => .ok (x, y) := rfl

/-- Reading items fails because one of them does. -/
theorem exists_of_projectItems {α : Type} {item : Reply → Except Error α} {done : List α}
    {rs : List Reply} (h : projectItems item done rs = .error e) :
    ∃ r ∈ rs, item r = .error e := by
  induction rs generalizing done with
  | nil => cases h
  | cons r rs ih =>
    rw [projectItems] at h
    split at h
    · rename_i e' he'
      cases h
      exact ⟨r, by simp, he'⟩
    · obtain ⟨s, hs, hitem⟩ := ih h
      exact ⟨s, by simp [hs], hitem⟩

/-- Reading fields and values fails because one of them does. -/
theorem exists_of_projectPairs {κ ν : Type} [DecidableEq κ] {key : Reply → Except Error κ}
    {value : Reply → Except Error ν} {bound : Bindings κ ν} {rs : List Reply}
    (h : projectPairs key value bound rs = .error e) :
    ∃ r ∈ rs, key r = .error e ∨ value r = .error e := by
  fun_induction projectPairs key value bound rs with
  | case1 bound field content rest e' he' =>
    cases h
    exact ⟨field, by simp, Or.inl he'⟩
  | case2 bound field content rest k hk e' he' =>
    cases h
    exact ⟨content, by simp, Or.inr he'⟩
  | case3 bound field content rest k hk v hv ih =>
    obtain ⟨s, hs, hfails⟩ := ih h
    exact ⟨s, by simp [hs], hfails⟩
  | case4 bound rs hrs => cases h

/-- A projection fails because of the reply that it reads. -/
theorem stemsFrom_of_project {s : Shape} (h : s.project r = .error e) : e.StemsFrom r := by
  induction s generalizing r e with
  | reply =>
    cases r with
    | error text => cases h; exact stemsFrom_error text
    | _ => cases h
  | unit =>
    cases r with
    | error text => cases h; exact stemsFrom_error text
    | _ => cases h
  | text =>
    cases r with
    | status s => cases h
    | integer i => cases h
    | bulk data => exact stemsFrom_of_binaryBulk h
    | _ => cases h; exact stemsFrom_reject _ _
  | bytes =>
    cases r with
    | status s => cases h
    | bulk data => cases h
    | _ => cases h; exact stemsFrom_reject _ _
  | integer =>
    cases r with
    | integer i => cases h
    | bulk data => exact stemsFrom_of_orReject h
    | status s => exact stemsFrom_of_orReject h
    | _ => cases h; exact stemsFrom_reject _ _
  | unsigned =>
    cases r with
    | integer i => exact stemsFrom_of_ite h
    | bulk data => exact stemsFrom_of_orReject h
    | _ => cases h; exact stemsFrom_reject _ _
  | float =>
    cases r with
    | integer i => cases h
    | bulk data => exact stemsFrom_of_orReject h
    | _ => cases h; exact stemsFrom_reject _ _
  | flag =>
    cases r with
    | integer i => cases h
    | status s => exact stemsFrom_of_ite h
    | nullBulk => cases h
    | _ => cases h; exact stemsFrom_reject _ _
  | replies =>
    cases r with
    | array items => cases h
    | _ => cases h; exact stemsFrom_reject _ _
  | optional item ih =>
    have hitem (hr : (project item r).map some = .error e) : e.StemsFrom r := by
      cases hp : project item r with
      | ok value => rw [hp] at hr; cases hr
      | error e' => rw [hp] at hr; cases hr; exact ih hp
    cases r with
    | nullBulk => cases h
    | nullArray => cases h
    | _ => exact hitem h
  | list item ih =>
    cases r with
    | array items =>
      obtain ⟨s, hs, hfails⟩ := exists_of_projectItems h
      exact (ih hfails).of_item hs
    | _ => cases h; exact stemsFrom_reject _ _
  | map key value ihkey ihvalue =>
    cases r with
    | array items =>
      have h : (if items.length % 2 = 0 then
          projectPairs (project key) (project value) Bindings.empty items
        else .error (reject .fieldValuePairs (.array items))) = .error e := h
      split at h
      · obtain ⟨s, hs, hkey | hvalue⟩ := exists_of_projectPairs h
        · exact (ihkey hkey).of_item hs
        · exact (ihvalue hvalue).of_item hs
      · cases h
        exact stemsFrom_reject _ _
    | _ => cases h; exact stemsFrom_reject _ _
  | pair first second ihfirst ihsecond =>
    cases r with
    | array items =>
      rcases items with _ | ⟨a, _ | ⟨b, _ | ⟨c, items⟩⟩⟩
      · cases h
        exact stemsFrom_reject _ _
      · cases h
        exact stemsFrom_reject _ _
      · rw [project_pair] at h
        split at h
        · rename_i hp
          cases h
          exact (ihfirst hp).of_item (by simp)
        · split at h
          · rename_i hp
            cases h
            exact (ihsecond hp).of_item (by simp)
          · cases h
      · cases h
        exact stemsFrom_reject _ _
    | _ => cases h; exact stemsFrom_reject _ _

theorem aboutReply_of_project {s : Shape} (h : s.project r = .error e) : e.AboutReply :=
  (stemsFrom_of_project h).aboutReply

/-- An error is no value of any shape. -/
theorem project_error (s : Shape) (text : String) :
    s.project (.error text) = .error (.server text) := by
  induction s with
  | optional item ih =>
    show (project item (.error text)).map some = _
    rw [ih]
    rfl
  | _ => rfl

/-- Reading a reply as a shape, however deep it is nested, comes to a value, to a part of another
    kind than expected, or to what the server reported in an error that stands in the reply. If the
    reply is an error itself it is always that one that is reported. No failure is fatal. -/
theorem project_outcome (s : Shape) (r : Reply) :
    ((∃ value, s.project r = .ok value) ∨
      (∃ expected actual, s.project r = .error (.unexpectedReply expected actual)) ∨
      ∃ text n, s.project r = .error (.server text) ∧ r.Part n (.error text)) ∧
    (∀ text, r = .error text → s.project r = .error (.server text)) ∧
    ∀ e, s.project r = .error e → e.isFatal = false := by
  refine ⟨?_, fun text hr => hr ▸ project_error s text, fun e he => ?_⟩
  · cases hp : s.project r with
    | ok value => exact Or.inl ⟨value, rfl⟩
    | error e =>
      cases stemsFrom_of_project hp with
      | server hpart => exact Or.inr (Or.inr ⟨_, _, rfl, hpart⟩)
      | unexpected expected actual => exact Or.inr (Or.inl ⟨expected, actual, rfl⟩)
  · cases stemsFrom_of_project he with
    | server _ => rfl
    | unexpected _ _ => rfl

/-- Fields and values of which one is an error, below a null. -/
def troubled : Reply :=
  .array [.nullArray, .array [.status "n", .error "WRONGTYPE", .status "m", .integer 1]]

/-- What cannot be read as a map of numbers can be as replies, the error among them. -/
theorem project_outcome_troubled :
    project (.list (.optional (.map .text .unsigned))) troubled = .error (.server "WRONGTYPE") ∧
    (Error.server "WRONGTYPE").isFatal = false ∧
    ∃ value, project (.list (.optional .replies)) troubled = .ok value := by
  have hfails : project (.list (.optional (.map .text .unsigned))) troubled
    = .error (.server "WRONGTYPE") := rfl
  exact ⟨hfails, (project_outcome _ troubled).2.2 _ hfails, _, rfl⟩

end Shape

end RespLink
