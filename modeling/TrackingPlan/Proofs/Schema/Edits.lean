import Mathlib.Logic.Relation
import TrackingPlan.Proofs.Assoc
import TrackingPlan.Proofs.Failure
import TrackingPlan.Proofs.Schema.Decoding
import TrackingPlan.Proofs.Schema.Format

/-!
# What the decoder does not see

Three kinds of edits leave a document as it is for the decoder: other orders of members, members
that the format does not know, and null members. One edit changes at most one member or one item of
a record or a list, and that by an edit again; so each step of the decoder does the same for both
documents, errors included, and the lists that it hands on differ by edits of their items.

Key definitions: `Json.Reorders`, `Shape.Edits`, `RecordKind.Agree`.
Key theorems: `Shape.Edits.agree`, `Shape.Edits.items`, `Decode.event_eq`, `Schema.decode_eq`,
`Schema.decode_eq_of_edits`.
-/

namespace TrackingPlan

open Relation Steps

/-! ### Edits -/

/-- The members of one object, which may be anywhere in the value, come in another order. -/
inductive Json.Reorders : Json → Json → Prop
  | members {before after : Assoc Json} : before.keys.Nodup → before.Perm after →
      Reorders (obj before) (obj after)
  | member (before after : Assoc Json) (key : String) {v w : Json} : Reorders v w →
      Reorders (obj (before ++ (key, v) :: after)) (obj (before ++ (key, w) :: after))
  | item (before after : List Json) {v w : Json} : Reorders v w →
      Reorders (arr (before ++ v :: after)) (arr (before ++ w :: after))

/-- One edit of a value of some shape: members come in another order, or an object that stands for
a record gets a member that its record does not know, or a null one that it did not have. -/
inductive Shape.Edits : Shape → Json → Json → Prop
  | order {shape : Shape} {v w : Json} : v.Reorders w → Edits shape v w
  | unknown {r : RecordKind} (before after : Assoc Json) (key : String) (v : Json) :
      key ∉ r.members.keys →
      Edits (.record r) (.obj (before ++ after)) (.obj (before ++ (key, v) :: after))
  | null {r : RecordKind} (before after : Assoc Json) (key : String) :
      key ∈ r.members.keys → key ∉ Assoc.keys (before ++ after) →
      Edits (.record r) (.obj (before ++ after)) (.obj (before ++ (key, .null) :: after))
  | member {r : RecordKind} {place : Place} (before after : Assoc Json) (key : String)
      {v w : Json} : r.members.get? key = some place → Edits place.shape v w →
      Edits (.record r) (.obj (before ++ (key, v) :: after)) (.obj (before ++ (key, w) :: after))
  | item {r : RecordKind} (before after : List Json) {v w : Json} : Edits (.record r) v w →
      Edits (.records r) (.arr (before ++ v :: after)) (.arr (before ++ w :: after))

/-! ### One changed part -/

namespace Json

variable {before after : Assoc Json} {key name : String} {v w : Json}

/-- Another member is seen as before. -/
theorem member_insert_of_ne (h : name ≠ key) :
    member (before ++ (key, v) :: after) name = member (before ++ after) name := by
  rw [member, member, Assoc.get?_append, Assoc.get?_append, Assoc.get?_cons, if_neg h]

/-- A null member is seen as a missing one. -/
theorem member_insert_null (h : key ∉ Assoc.keys (before ++ after)) (name : String) :
    member (before ++ (key, null) :: after) name = member (before ++ after) name := by
  by_cases hname : name = key
  · subst hname
    have hnone := Assoc.get?_eq_none.mpr h
    rw [member, member, hnone]
    rw [Assoc.get?_append, Option.or_eq_none_iff] at hnone
    rw [Assoc.get?_append, Assoc.get?_cons, if_pos rfl, hnone.1]
    rfl
  · exact member_insert_of_ne hname

/-- Where one member is replaced, at most that one is seen to change. -/
theorem member_replace {R : Json → Json → Prop} (before after : Assoc Json) (key : String)
    (h : R v w) (name : String) :
    name = key ∧ R (member (before ++ (key, v) :: after) name)
        (member (before ++ (key, w) :: after) name) ∨
      member (before ++ (key, v) :: after) name = member (before ++ (key, w) :: after) name := by
  by_cases hname : name = key
  · subst hname
    have hmember (x : Json) : member (before ++ (name, x) :: after) name =
        ((Assoc.get? before name).or (some x)).getD null := by
      rw [member, Assoc.get?_append, Assoc.get?_cons, if_pos rfl]
    rw [hmember, hmember]
    cases Assoc.get? before name with
    | none => exact .inl ⟨rfl, h⟩
    | some x => exact .inr rfl
  · rw [member_insert_of_ne hname, member_insert_of_ne hname]
    exact .inr rfl

theorem forall₂_replace {R : Json → Json → Prop} (before after : List Json) (h : R v w) :
    List.Forall₂ (ReflGen R) (before ++ v :: after) (before ++ w :: after) :=
  List.rel_append (List.forall₂_refl before) (.cons (.single h) (List.forall₂_refl after))

/-! ### Other orders -/

namespace Reorders

/-- A list stays a list and an object an object. -/
theorem shapes (h : v.Reorders w) :
    (∃ xs ys, v = arr xs ∧ w = arr ys) ∨ ∃ xs ys, v = obj xs ∧ w = obj ys := by
  cases h with
  | members _ _ => exact .inr ⟨_, _, rfl, rfl⟩
  | member _ _ _ _ => exact .inr ⟨_, _, rfl, rfl⟩
  | item _ _ _ => exact .inl ⟨_, _, rfl, rfl⟩

theorem member_cases {members members' : Assoc Json} (h : (obj members).Reorders (obj members'))
    (name : String) : ReflGen Reorders (Json.member members name) (Json.member members' name) := by
  cases h with
  | members hnodup hperm => rw [Json.member, Json.member, Assoc.get?_perm hnodup hperm]
  | member before after key h =>
    rcases member_replace before after key h name with ⟨-, h⟩ | h
    · exact .single h
    · exact h ▸ .refl

theorem items {xs ys : List Json} (h : (arr xs).Reorders (arr ys)) :
    List.Forall₂ (ReflGen Reorders) xs ys := by
  cases h with
  | item before after h => exact forall₂_replace before after h

end Reorders
end Json

/-! ### Edits of records and lists -/

/-- Two objects agree for a record when each of its members differs by an edit at most. -/
def RecordKind.Agree (r : RecordKind) (members members' : Assoc Json) : Prop :=
  ∀ (key : String) {place : Place}, r.members.get? key = some place →
    ReflGen place.shape.Edits (Json.member members key) (Json.member members' key)

namespace Shape.Edits

variable {shape : Shape} {r : RecordKind} {v w : Json}

theorem shapes (h : shape.Edits v w) :
    (∃ xs ys, v = .arr xs ∧ w = .arr ys) ∨ ∃ xs ys, v = .obj xs ∧ w = .obj ys := by
  cases h with
  | order h => exact h.shapes
  | item _ _ _ => exact .inl ⟨_, _, rfl, rfl⟩
  | _ => exact .inr ⟨_, _, rfl, rfl⟩

/-- A value that an edit may have changed is the same, or it was and is a list, or an object. -/
@[elab_as_elim]
theorem cases_refl {motive : Json → Json → Prop} (h : ReflGen shape.Edits v w)
    (same : ∀ v, motive v v)
    (lists : ∀ xs ys, shape.Edits (.arr xs) (.arr ys) → motive (.arr xs) (.arr ys))
    (objects : ∀ xs ys, shape.Edits (.obj xs) (.obj ys) → motive (.obj xs) (.obj ys)) :
    motive v w := by
  cases h with
  | refl => exact same _
  | single h =>
    rcases h.shapes with ⟨xs, ys, rfl, rfl⟩ | ⟨xs, ys, rfl, rfl⟩
    · exact lists xs ys h
    · exact objects xs ys h

/-- **An edit of a record changes at most one member that the record knows**, and that by an
edit. -/
theorem agree {members members' : Assoc Json}
    (h : (Shape.record r).Edits (.obj members) (.obj members')) : r.Agree members members' := by
  intro name place hplace
  cases h with
  | order h => exact (h.member_cases name).mono fun _ _ h => Shape.Edits.order h
  | unknown before after key v hkey =>
    have hname : name ≠ key := by
      rintro rfl
      exact hkey (List.mem_map_of_mem (Assoc.mem_of_get? hplace))
    rw [Json.member_insert_of_ne hname]
  | null before after key _ hfresh => rw [Json.member_insert_null hfresh]
  | member before after key hknown h =>
    -- Where the name is given more than once, the member that changes may not be the one seen.
    rcases Json.member_replace before after key h name with ⟨rfl, h⟩ | h
    · obtain rfl := Option.some.inj (hknown.symm.trans hplace)
      exact .single h
    · exact h ▸ .refl

/-- An edit of a list of records changes at most one of them, and that by an edit. -/
theorem items {xs ys : List Json} (h : (Shape.records r).Edits (.arr xs) (.arr ys)) :
    List.Forall₂ (ReflGen (Shape.record r).Edits) xs ys := by
  cases h with
  | order h => exact h.items.imp fun _ _ h => h.mono fun _ _ h => Shape.Edits.order h
  | item before after h => exact Json.forall₂_replace before after h

end Shape.Edits

namespace Decode

/-! ### Members -/

section Members

variable {shape : Shape} {r : RecordKind} {node node' : Assoc Json} {key : String}

theorem text?_eq (h : ReflGen shape.Edits (Json.member node key) (Json.member node' key))
    (path : Path) : text? node path key = text? node' path key := by
  unfold text?
  exact Shape.Edits.cases_refl h (fun _ => rfl) (fun _ _ _ => rfl) fun _ _ _ => rfl

theorem integer?_eq (h : ReflGen shape.Edits (Json.member node key) (Json.member node' key))
    (path : Path) : integer? node path key = integer? node' path key := by
  unfold integer?
  exact Shape.Edits.cases_refl h (fun _ => rfl) (fun _ _ _ => rfl) fun _ _ _ => rfl

theorem boolean?_eq (h : ReflGen shape.Edits (Json.member node key) (Json.member node' key))
    (path : Path) : boolean? node path key = boolean? node' path key := by
  unfold boolean?
  exact Shape.Edits.cases_refl h (fun _ => rfl) (fun _ _ _ => rfl) fun _ _ _ => rfl

theorem text_eq (h : ReflGen shape.Edits (Json.member node key) (Json.member node' key))
    (path : Path) : text node path key = text node' path key := by
  rw [text, text, text?_eq h]

theorem integer_eq (h : ReflGen shape.Edits (Json.member node key) (Json.member node' key))
    (path : Path) : integer node path key = integer node' path key := by
  rw [integer, integer, integer?_eq h]

theorem strings?_eq {vs ws : List Json} (h : List.Forall₂ (ReflGen Json.Reorders) vs ws) :
    strings? vs = strings? ws := by
  induction h with
  | nil => rfl
  | @cons v w vs ws hhead _ ih =>
    cases hhead with
    | refl => cases v <;> simp only [strings?, ih]
    -- An item that changes is no string, before or after.
    | single h => rcases h.shapes with ⟨_, _, rfl, rfl⟩ | ⟨_, _, rfl, rfl⟩ <;> rfl

theorem stringEnum_eq (h : ReflGen Shape.strings.Edits (Json.member node "stringEnum")
    (Json.member node' "stringEnum")) (path : Path) :
    stringEnum node path = stringEnum node' path := by
  unfold stringEnum
  refine Shape.Edits.cases_refl h (fun _ => rfl) (fun xs ys h => ?_) fun _ _ _ => rfl
  -- In a list of strings there are no records, so only an order can change.
  cases h with
  | order h =>
    dsimp only
    rw [strings?_eq h.items]

/-! ### Lists and objects -/

theorem object_parallel {v w : Json} (h : ReflGen (Shape.record r).Edits v w) (path : Path) :
    Parallel r.Agree (object path v) (object path w) := by
  refine Shape.Edits.cases_refl h (fun v => ?_) (fun _ _ _ => .error _) fun _ _ h => .ok h.agree
  exact .refl fun members key place _ => .refl

theorem list_parallel
    (h : ReflGen (Shape.records r).Edits (Json.member node key) (Json.member node' key))
    (path : Path) : Parallel (List.Forall₂ (ReflGen (Shape.record r).Edits)) (list node path key)
      (list node' path key) := by
  unfold list
  refine Shape.Edits.cases_refl h (fun v => ?_) (fun _ _ h => .ok h.items) fun _ _ _ => .error _
  exact .refl List.forall₂_refl

theorem requiredList_parallel
    (h : ReflGen (Shape.records r).Edits (Json.member node key) (Json.member node' key))
    (path : Path) : Parallel (List.Forall₂ (ReflGen (Shape.record r).Edits))
      (requiredList node path key) (requiredList node' path key) := by
  unfold requiredList
  refine Shape.Edits.cases_refl h (fun v => ?_) (fun _ _ h => .ok h.items) fun _ _ _ => .error _
  exact .refl List.forall₂_refl

/-- Lists whose items are decoded alike are. -/
theorem items_eq {α : Type} {decode : Path → Json → Result α} {R : Json → Json → Prop}
    {vs ws : List Json} (h : List.Forall₂ R vs ws)
    (hdecode : ∀ {v w}, R v w → ∀ path, decode path v = decode path w) (base : Path) (i : Nat) :
    items decode base i vs = items decode base i ws := by
  induction h generalizing i with
  | nil => rfl
  | cons hhead _ ih => rw [items, items, hdecode hhead, ih]

end Members

/-! ### The records -/

variable {v w : Json}

theorem parameter_eq (h : ReflGen (Shape.record .parameter).Edits v w) (path : Path) :
    parameter path v = parameter path w := by
  refine (object_parallel h path).bind_eq fun node node' hagree => ?_
  rw [text_eq (hagree "name" rfl), text_eq (hagree "typeName" rfl),
    text?_eq (hagree "description" rfl), text?_eq (hagree "publishName" rfl)]

theorem value_eq (h : ReflGen (Shape.record .value).Edits v w) (path : Path) :
    value path v = value path w := by
  refine (object_parallel h path).bind_eq fun node node' hagree => ?_
  rw [parameter_eq (hagree "parameter" rfl), text?_eq (hagree "stringValue" rfl),
    integer?_eq (hagree "integerValue" rfl), boolean?_eq (hagree "booleanValue" rfl),
    text?_eq (hagree "stringEnumValue" rfl)]

theorem tag_eq (h : ReflGen (Shape.record .tag).Edits v w) (path : Path) :
    tag path v = tag path w := by
  refine (object_parallel h path).bind_eq fun node node' hagree => ?_
  rw [text_eq (hagree "name" rfl), text?_eq (hagree "class" rfl)]

theorem event_eq (h : ReflGen (Shape.record .event).Edits v w) (path : Path) :
    event path v = event path w := by
  refine (object_parallel h path).bind_eq fun node node' hagree => ?_
  refine (list_parallel (hagree "values" rfl) path).bind_eq fun vs vs' hvalues => ?_
  refine (list_parallel (hagree "parameters" rfl) path).bind_eq fun ps ps' hparameters => ?_
  refine (list_parallel (hagree "tags" rfl) path).bind_eq fun ts ts' htags => ?_
  rw [integer_eq (hagree "id" rfl), text_eq (hagree "name" rfl),
    text?_eq (hagree "description" rfl), items_eq hvalues value_eq,
    items_eq hparameters parameter_eq, items_eq htags tag_eq]

theorem schemaType_eq (h : ReflGen (Shape.record .type).Edits v w) (path : Path) :
    schemaType path v = schemaType path w := by
  refine (object_parallel h path).bind_eq fun node node' hagree => ?_
  rw [stringEnum_eq (hagree "stringEnum" rfl), text_eq (hagree "name" rfl)]

end Decode

namespace Schema

open Decode in
/-- One edit changes nothing. -/
theorem decode_eq {v w : Json} (h : ReflGen (Shape.record .schema).Edits v w) :
    decode v = decode w := by
  refine (object_parallel h []).bind_eq fun node node' hagree => ?_
  refine (requiredList_parallel (hagree "events" rfl) []).bind_eq fun es es' hevents => ?_
  refine (list_parallel (hagree "types" rfl) []).bind_eq fun ts ts' htypes => ?_
  rw [text_eq (hagree "projectId" rfl), integer_eq (hagree "versionNumber" rfl),
    items_eq hevents event_eq, items_eq htypes schemaType_eq]

/-- **Decoding depends on the known members only that are not null.** Documents that edits lead to
from one another, forth or back, hold the same schema or are refused with the same error. -/
theorem decode_eq_of_edits {v w : Json} (h : EqvGen (Shape.record .schema).Edits v w) :
    decode v = decode w := by
  induction h with
  | rel v w h => exact decode_eq (.single h)
  | refl v => rfl
  | symm v w _ ih => exact ih.symm
  | trans u v w _ _ ihuv ihvw => exact ihuv.trans ihvw

/-- A document as it is written by hand. -/
def handWritten : Json := .obj [
  ("projectId", .str "shop"),
  ("versionNumber", .int 2),
  ("events", .arr [.obj [("id", .int 7), ("name", .str "Open")]]),
  ("types", .null)]

/-- The same document as a tool writes it, with a member of its own and in its own order. -/
def exported : Json := .obj [
  ("versionNumber", .int 2),
  ("projectId", .str "shop"),
  ("events", .arr [.obj [
    ("id", .int 7),
    ("note", .str "later"),
    ("name", .str "Open"),
    ("values", .null)]])]

/-- The tool changes nothing of what the document holds. -/
theorem decode_eq_of_edits_exported : EqvGen (Shape.record .schema).Edits handWritten exported ∧
    decode handWritten = decode exported ∧
    decode exported = .ok
      { projectId := "shop", versionNumber := 2, events := [{ id := 7, name := "Open" }] } := by
  have hevent (others : Assoc Json) {v w : Json} (h : (Shape.record .event).Edits v w) :
      (Shape.record .schema).Edits (.obj (others ++ [("events", .arr [v])]))
        (.obj (others ++ [("events", .arr [w])])) :=
    .member others [] "events" rfl (.item [] [] h)
  have h : EqvGen (Shape.record .schema).Edits handWritten exported := by
    -- The null types go, two members change places, and the event gets two more members.
    refine .trans _ _ _
      (.symm _ _ (.rel _ _ (.null [_, _, _] [] "types" (by decide) (by decide)))) ?_
    refine .trans _ _ _ (.rel _ _ (.order (.members (by decide) (.swap _ _ _)))) ?_
    refine .trans _ _ _
      (.rel _ _ (hevent [_, _] (.unknown [_] [_] "note" (.str "later") (by decide)))) ?_
    exact .rel _ _ (hevent [_, _] (.null [_, _, _] [] "values" (by decide) (by decide)))
  exact ⟨h, decode_eq_of_edits h, rfl⟩

end Schema
end TrackingPlan
