import TrackingPlan.Proofs.Assoc
import TrackingPlan.Proofs.Failure
import TrackingPlan.Proofs.Schema.Decoding
import TrackingPlan.Proofs.Schema.Format

/-!
# Where a document is no schema

A fault is found at a place of the format that holds a value of a kind that is not allowed there,
and the message says so of that place and that value. Each step of the decoder only fails so; a
fault at a part of a value is one at a longer path into the value.

Key definitions: `Json.HoldsAt`, `Shape.complaint`, `Place.Faulty`, `DecodeError.PointsAt`.
Key theorems: `Place.Faulty.member`, `Place.Faulty.item`, `Decode.throws_event`,
`Schema.throws_decode`, `Schema.decode_pointsAt`.
-/

namespace TrackingPlan

open Steps

/-! ### What stands at a path -/

namespace Json

variable {v x : Json} {path rest : Path} {members : Assoc Json} {key : String}

/-- The path leads to an object and then asks for a member that the object does not have. -/
def Lacks (v : Json) (path : Path) : Prop :=
  ∃ parent key members, path = parent ++ [.key key] ∧ follow? parent v = some (obj members) ∧
    Assoc.get? members key = none

/-- The path leads to the value; a missing member counts as null. -/
def HoldsAt (v : Json) (path : Path) (x : Json) : Prop :=
  follow? path v = some x ∨ x = null ∧ v.Lacks path

theorem follow?_null (h : follow? path null = some x) : path = [] ∧ x = null := by
  cases path with
  | nil => exact ⟨rfl, (Option.some.inj h).symm⟩
  | cons step rest => cases step <;> exact nomatch h

/-- Nothing is found beyond null. -/
theorem HoldsAt.of_null (h : null.HoldsAt path x) : path = [] ∧ x = null := by
  rcases h with h | ⟨-, parent, key, members, -, h, -⟩
  · exact follow?_null h
  · cases (follow?_null h).2

theorem HoldsAt.member (h : (Json.member members key).HoldsAt rest x) :
    (obj members).HoldsAt (.key key :: rest) x := by
  have hfollow (path : Path) : follow? (.key key :: path) (obj members) =
      (Assoc.get? members key).bind (follow? path) := rfl
  unfold Json.member at h
  cases hget : Assoc.get? members key with
  | none =>
    rw [hget] at h
    obtain ⟨rfl, rfl⟩ := h.of_null
    exact .inr ⟨rfl, [], key, members, rfl, rfl, hget⟩
  | some v =>
    rw [hget] at h
    rcases h with h | ⟨rfl, parent, name, inner, rfl, h, hmissing⟩
    · exact .inl (by rw [hfollow, hget]; exact h)
    · refine .inr ⟨rfl, .key key :: parent, name, inner, rfl, ?_, hmissing⟩
      rw [hfollow, hget]
      exact h

theorem HoldsAt.item {items : List Json} {i : Nat} (hi : items[i]? = some v)
    (h : v.HoldsAt rest x) : (arr items).HoldsAt (.index i :: rest) x := by
  have hfollow (path : Path) : follow? (.index i :: path) (arr items) = follow? path v := by
    rw [follow?, hi]
    rfl
  rcases h with h | ⟨rfl, parent, name, inner, rfl, h, hmissing⟩
  · exact .inl ((hfollow rest).trans h)
  · exact .inr ⟨rfl, .index i :: parent, name, inner, rfl, (hfollow parent).trans h, hmissing⟩

end Json

/-! ### Faults -/

/-- What is said of a value that may not stand at a place. -/
def Shape.complaint : Shape → Json → String
  | record _, v => " must be an object, got " ++ v.kind.word
  | _, .null => " is required"
  | records _, _ => " must be a list"
  | strings, _ => " must be a list of strings"
  | scalar .integer, .bool _ => " must be an integer"
  | scalar kind, v => " must be of type " ++ kind.word ++ ", got " ++ v.kind.word

namespace Place

variable {p inner : Place} {shape : Shape} {r : RecordKind} {required : Bool} {base : Path}
  {v : Json} {e : DecodeError}

/-- The error is about a value that may not stand where it does, somewhere in a value that was
found at a path. -/
def Faulty (p : Place) (base : Path) (v : Json) (e : DecodeError) : Prop :=
  ∃ rest inner x, p.at? rest = some inner ∧ v.HoldsAt rest x ∧ ¬ inner.Admits x ∧
    e.message = (base ++ rest).text ++ inner.shape.complaint x

namespace Faulty

theorem here (h : ¬ p.Admits v) (he : e.message = base.text ++ p.shape.complaint v) :
    p.Faulty base v e :=
  ⟨[], p, v, rfl, .inl rfl, h, by rw [List.append_nil, he]⟩

/-- A fault in a member is one of the object. -/
theorem member {members : Assoc Json} {key : String} (hkey : r.members.get? key = some inner)
    (h : inner.Faulty (base ++ [.key key]) (Json.member members key) e) :
    Faulty ⟨.record r, required⟩ base (.obj members) e := by
  obtain ⟨rest, place, x, hat, hx, hrefused, hmessage⟩ := h
  rw [List.append_assoc, List.singleton_append] at hmessage
  exact ⟨.key key :: rest, place, x, by rw [at?, hkey]; exact hat, hx.member, hrefused, hmessage⟩

/-- A fault in an item is one of the list. -/
theorem item {items : List Json} {i : Nat} (hi : items[i]? = some v)
    (h : Faulty ⟨.record r, true⟩ (base ++ [.index i]) v e) :
    Faulty ⟨.records r, required⟩ base (.arr items) e := by
  obtain ⟨rest, place, x, hat, hx, hrefused, hmessage⟩ := h
  rw [List.append_assoc, List.singleton_append] at hmessage
  exact ⟨.index i :: rest, place, x, hat, hx.item hi, hrefused, hmessage⟩

/-- What may not be there if it could be missing may not be there if it is required. -/
theorem to_required (h : Faulty ⟨shape, false⟩ base v e) : Faulty ⟨shape, true⟩ base v e := by
  obtain ⟨rest, place, x, hat, hx, hrefused, hmessage⟩ := h
  cases rest with
  | nil =>
    obtain rfl := Option.some.inj hat
    refine ⟨[], ⟨shape, true⟩, x, rfl, hx, fun hadmits => hrefused ?_, hmessage⟩
    exact hadmits.imp_right fun h => nomatch h.1
  | cons step rest =>
    refine ⟨step :: rest, place, x, ?_, hx, hrefused, hmessage⟩
    cases shape <;> cases step <;> exact hat

end Faulty
end Place

namespace Decode

open Place

variable {α : Type} {node : Assoc Json} {path : Path} {key : String} {r : RecordKind}

/-! ### The members -/

/-- A step for a member fails for a fault of the object. -/
theorem throws_member {inner : Place} {required : Bool} {x : Result α}
    (hkey : r.members.get? key = some inner)
    (h : Throws (inner.Faulty (path ++ [.key key]) (Json.member node key)) x) :
    Throws (Faulty ⟨.record r, required⟩ path (.obj node)) x :=
  fun e he => .member hkey (h e he)

theorem not_admits_scalar {kind : Json.Kind} {required : Bool} {v : Json} (hkind : v.kind ≠ kind)
    (hnull : v ≠ .null) : ¬ Admits ⟨.scalar kind, required⟩ v := by
  rintro (h | ⟨-, h⟩)
  · exact hkind h
  · exact hnull h

theorem message_wrongKind (path : Path) (wanted got : Json.Kind) :
    (DecodeError.wrongKind path wanted got).message =
      path.text ++ (" must be of type " ++ wanted.word ++ ", got " ++ got.word) := by
  rw [DecodeError.message]
  simp only [String.append_assoc]

theorem throws_text? (node : Assoc Json) (path : Path) (key : String) :
    Throws (Faulty ⟨.scalar .text, false⟩ (path ++ [.key key]) (Json.member node key))
      (text? node path key) := by
  unfold text?
  cases Json.member node key with
  | null => exact .ok _
  | str s => exact .ok _
  | _ =>
    refine .error (.here (not_admits_scalar ?_ ?_) (message_wrongKind _ _ _)) <;> rintro ⟨⟩

theorem throws_integer? (node : Assoc Json) (path : Path) (key : String) :
    Throws (Faulty ⟨.scalar .integer, false⟩ (path ++ [.key key]) (Json.member node key))
      (integer? node path key) := by
  unfold integer?
  cases Json.member node key with
  | null => exact .ok _
  | int n => exact .ok _
  | bool b => refine .error (.here (not_admits_scalar ?_ ?_) rfl) <;> rintro ⟨⟩
  | _ =>
    refine .error (.here (not_admits_scalar ?_ ?_) (message_wrongKind _ _ _)) <;> rintro ⟨⟩

theorem throws_boolean? (node : Assoc Json) (path : Path) (key : String) :
    Throws (Faulty ⟨.scalar .boolean, false⟩ (path ++ [.key key]) (Json.member node key))
      (boolean? node path key) := by
  unfold boolean?
  cases Json.member node key with
  | null => exact .ok _
  | bool b => exact .ok _
  | _ =>
    refine .error (.here (not_admits_scalar ?_ ?_) (message_wrongKind _ _ _)) <;> rintro ⟨⟩

/-- A member that has to be there can also be at fault for being null. -/
theorem throws_required {x : Result (Option α)} {kind : Json.Kind} {v : Json}
    (hx : Throws (Faulty ⟨.scalar kind, false⟩ (path ++ [.key key]) v) x)
    (hnone : x = .ok none → v = .null) (hkind : kind ≠ .null) :
    Throws (Faulty ⟨.scalar kind, true⟩ (path ++ [.key key]) v) (required path key x) := by
  intro e h
  unfold required at h
  split at h
  · exact nomatch h
  · obtain rfl := Except.error.inj h
    obtain rfl := hnone rfl
    refine .here ?_ rfl
    rintro (h | ⟨h, -⟩)
    · exact hkind h.symm
    · exact nomatch h
  · obtain rfl := Except.error.inj h
    exact (hx _ rfl).to_required

theorem throws_text (node : Assoc Json) (path : Path) (key : String) :
    Throws (Faulty ⟨.scalar .text, true⟩ (path ++ [.key key]) (Json.member node key))
      (text node path key) :=
  throws_required (throws_text? node path key) text?_eq_ok.mp nofun

theorem throws_integer (node : Assoc Json) (path : Path) (key : String) :
    Throws (Faulty ⟨.scalar .integer, true⟩ (path ++ [.key key]) (Json.member node key))
      (integer node path key) :=
  throws_required (throws_integer? node path key) integer?_eq_ok.mp nofun

theorem throws_list (node : Assoc Json) (path : Path) (key : String) (r : RecordKind) :
    Throws (Faulty ⟨.records r, false⟩ (path ++ [.key key]) (Json.member node key))
      (list node path key) := by
  unfold list
  cases Json.member node key with
  | null => exact .ok _
  | arr items => exact .ok _
  | _ =>
    refine .error (.here ?_ rfl)
    rintro (h | ⟨-, h⟩) <;> cases h

theorem throws_requiredList (node : Assoc Json) (path : Path) (key : String) (r : RecordKind) :
    Throws (Faulty ⟨.records r, true⟩ (path ++ [.key key]) (Json.member node key))
      (requiredList node path key) := by
  unfold requiredList
  cases Json.member node key with
  | arr items => exact .ok _
  | _ =>
    refine .error (.here ?_ rfl)
    rintro (h | ⟨h, -⟩) <;> exact nomatch h

theorem throws_stringEnum (node : Assoc Json) (path : Path) :
    Throws (Faulty ⟨.strings, false⟩ (path ++ [.key "stringEnum"]) (Json.member node "stringEnum"))
      (stringEnum node path) := by
  intro e h
  have hrefused : ¬ Admits ⟨.strings, false⟩ (Json.member node "stringEnum") := by
    have hnot (x : Option (List String)) : ¬ stringEnum node path = .ok x := fun hx =>
      nomatch h.symm.trans hx
    rintro (⟨texts, htexts⟩ | ⟨-, hnull⟩)
    · exact hnot (some texts) (stringEnum_eq_ok.mpr htexts)
    · exact hnot none (stringEnum_eq_ok.mpr hnull)
  refine .here hrefused ?_
  unfold stringEnum at h
  cases hv : Json.member node "stringEnum" with
  | null => exact absurd (.inr ⟨rfl, hv⟩) hrefused
  | arr entries =>
    rw [hv] at h
    dsimp only at h
    split at h
    · exact nomatch h
    · exact Except.error.inj h ▸ rfl
  | _ =>
    rw [hv] at h
    exact Except.error.inj h ▸ rfl

/-- The induction goes along the items, with those before them, whose number is that of the next
item. -/
theorem throws_items_append {decode : Path → Json → Result α} (base : Path) (required : Bool)
    (hdecode : ∀ path v, Throws (Faulty ⟨.record r, true⟩ path v) (decode path v))
    (before vs : List Json) :
    Throws (Faulty ⟨.records r, required⟩ base (.arr (before ++ vs)))
      (items decode base before.length vs) := by
  induction vs generalizing before with
  | nil => exact .ok _
  | cons v vs ih =>
    have hitem : (before ++ v :: vs)[before.length]? = some v := by simp
    have hrest := ih (before ++ [v])
    rw [List.append_assoc, List.singleton_append, List.length_append, List.length_singleton] at hrest
    exact .bind (fun e he => .item hitem (hdecode _ _ e he)) fun _ => hrest.bind fun _ => .ok _

/-- The items of a value fail for a fault of an item. -/
theorem throws_items {decode : Path → Json → Result α} (base : Path) (required : Bool) (v : Json)
    (hdecode : ∀ path v, Throws (Faulty ⟨.record r, true⟩ path v) (decode path v)) :
    Throws (Faulty ⟨.records r, required⟩ base v) (items decode base 0 v.items) := by
  cases v with
  | arr vs => exact throws_items_append base required hdecode [] vs
  | _ => exact .ok _

/-! ### The records -/

/-- What is no object is at fault itself. -/
theorem throws_object {f : Assoc Json → Result α} {v : Json}
    (h : ∀ node, v = .obj node → Throws (Faulty ⟨.record r, true⟩ path v) (f node)) :
    Throws (Faulty ⟨.record r, true⟩ path v) (object path v >>= f) := by
  have hwrong (v : Json) (hkind : v.kind ≠ .object) :
      Faulty ⟨.record r, true⟩ path v (.notAnObject path v.kind) := by
    refine .here ?_ ?_
    · rintro (h | ⟨h, -⟩)
      · exact hkind h
      · exact nomatch h
    · rw [DecodeError.message, String.append_assoc]
      rfl
  cases v with
  | obj node => exact h node rfl
  | _ => exact .error (hwrong _ nofun)

theorem throws_parameter (path : Path) (v : Json) :
    Throws (Faulty ⟨.record .parameter, true⟩ path v) (parameter path v) := by
  refine throws_object fun node hv => hv ▸ ?_
  refine (throws_member rfl (throws_text node path "name")).bind fun name => ?_
  refine (throws_member rfl (throws_text node path "typeName")).bind fun typeName => ?_
  refine (throws_member rfl (throws_text? node path "description")).bind fun description => ?_
  exact (throws_member rfl (throws_text? node path "publishName")).bind fun _ => .ok _

theorem throws_value (path : Path) (v : Json) :
    Throws (Faulty ⟨.record .value, true⟩ path v) (value path v) := by
  refine throws_object fun node hv => hv ▸ ?_
  refine (throws_member rfl (throws_parameter _ _)).bind fun parameter => ?_
  refine (throws_member rfl (throws_text? node path "stringValue")).bind fun string => ?_
  refine (throws_member rfl (throws_integer? node path "integerValue")).bind fun integer => ?_
  refine (throws_member rfl (throws_boolean? node path "booleanValue")).bind fun boolean => ?_
  exact (throws_member rfl (throws_text? node path "stringEnumValue")).bind fun _ => .ok _

theorem throws_tag (path : Path) (v : Json) :
    Throws (Faulty ⟨.record .tag, true⟩ path v) (tag path v) := by
  refine throws_object fun node hv => hv ▸ ?_
  refine (throws_member rfl (throws_text node path "name")).bind fun name => ?_
  exact (throws_member rfl (throws_text? node path "class")).bind fun _ => .ok _

/-- The lists of an event are taken first, and their items at the end. -/
theorem throws_event (path : Path) (v : Json) :
    Throws (Faulty ⟨.record .event, true⟩ path v) (event path v) := by
  refine throws_object fun node hv => hv ▸ ?_
  refine (throws_member rfl (throws_list node path "values" .value)).bind_of_ok fun vs hvs => ?_
  refine (throws_member rfl (throws_list node path "parameters" .parameter)).bind_of_ok
    fun ps hps => ?_
  refine (throws_member rfl (throws_list node path "tags" .tag)).bind_of_ok fun ts hts => ?_
  obtain ⟨⟨-, rfl⟩, ⟨-, rfl⟩, -, rfl⟩ := And.intro (list_eq_ok.mp hvs)
    (And.intro (list_eq_ok.mp hps) (list_eq_ok.mp hts))
  refine (throws_member rfl (throws_integer node path "id")).bind fun id => ?_
  refine (throws_member rfl (throws_text node path "name")).bind fun name => ?_
  refine (throws_member rfl (throws_text? node path "description")).bind fun description => ?_
  refine (throws_member rfl (throws_items _ false _ throws_value)).bind fun values => ?_
  refine (throws_member rfl (throws_items _ false _ throws_parameter)).bind fun parameters => ?_
  exact (throws_member rfl (throws_items _ false _ throws_tag)).bind fun _ => .ok _

theorem throws_schemaType (path : Path) (v : Json) :
    Throws (Faulty ⟨.record .type, true⟩ path v) (schemaType path v) := by
  refine throws_object fun node hv => hv ▸ ?_
  refine (throws_member rfl (throws_stringEnum node path)).bind fun stringEnum => ?_
  exact (throws_member rfl (throws_text node path "name")).bind fun _ => .ok _

end Decode

open Decode in
/-- **A document is refused for a fault in it.** -/
theorem Schema.throws_decode (v : Json) : Throws (Place.root.Faulty [] v) (decode v) := by
  refine throws_object fun node hv => hv ▸ ?_
  refine (throws_member rfl (throws_requiredList node [] "events" .event)).bind_of_ok
    fun es hes => ?_
  refine (throws_member rfl (throws_list node [] "types" .type)).bind_of_ok fun ts hts => ?_
  obtain ⟨⟨-, rfl⟩, -, rfl⟩ := And.intro (requiredList_eq_ok.mp hes) (list_eq_ok.mp hts)
  refine (throws_member rfl (throws_text node [] "projectId")).bind fun projectId => ?_
  refine (throws_member rfl (throws_integer node [] "versionNumber")).bind fun version => ?_
  refine (throws_member rfl (throws_items _ true _ throws_event)).bind fun events => ?_
  exact (throws_member rfl (throws_items _ false _ throws_schemaType)).bind fun _ => .ok _

/-! ### Messages -/

theorem getLast?_append_text (s : String) {t : String} {c : Char} (h : t.toList.getLast? = some c) :
    (s ++ t).toList.getLast? = some c := by
  rw [String.toList_append, List.getLast?_append, h, Option.some_or]

theorem Json.Kind.exists_getLast?_word (kind : Kind) :
    ∃ c, kind.word.toList.getLast? = some c ∧ c ≠ 'd' := by
  cases kind <;> exact ⟨_, rfl, by decide⟩

/-- What is said of a value other than null does not end as what is said of null does. -/
theorem Shape.exists_getLast?_complaint (shape : Shape) {v : Json} (hv : v ≠ .null) :
    ∃ c, (shape.complaint v).toList.getLast? = some c ∧ c ≠ 'd' := by
  obtain ⟨c, hword, hc⟩ := v.kind.exists_getLast?_word
  unfold complaint
  split
  · exact ⟨c, getLast?_append_text _ hword, hc⟩
  · exact absurd rfl hv
  · exact ⟨_, rfl, by decide⟩
  · exact ⟨_, rfl, by decide⟩
  · exact ⟨_, rfl, by decide⟩
  · exact ⟨c, getLast?_append_text _ hword, hc⟩

theorem eq_null_of_suffix {shape : Shape} {v : Json} {text : String}
    (h : "is required".toList <:+ (text ++ shape.complaint v).toList) : v = .null := by
  by_contra hv
  obtain ⟨c, hlast, hc⟩ := shape.exists_getLast?_complaint hv
  obtain ⟨before, heq⟩ := h
  have hboth := getLast?_append_text text hlast
  rw [← heq, List.getLast?_append] at hboth
  exact hc (Option.some.inj hboth).symm

/-! ### The place of a fault -/

/-- A path of the format that ends in a name ends in a member of a record. -/
theorem Place.exists_member_of_at? {place : Place} {key : String} : ∀ {parent : Path} {p : Place},
    p.at? (parent ++ [.key key]) = some place → ∃ r : RecordKind, r.members.get? key = some place
  | [], ⟨.record r, _⟩, h => by
    rw [List.nil_append, at?, Option.bind_eq_some_iff] at h
    obtain ⟨inner, hinner, heq⟩ := h
    exact ⟨r, hinner.trans heq⟩
  | .key name :: parent, ⟨.record r, _⟩, h => by
    rw [List.cons_append, at?, Option.bind_eq_some_iff] at h
    obtain ⟨inner, -, h⟩ := h
    exact exists_member_of_at? h
  | .index _ :: parent, ⟨.records r, _⟩, h => by
    rw [List.cons_append, at?] at h
    exact exists_member_of_at? h

/-- The only record that is a member, and no item of a list, is the parameter of a value. -/
theorem RecordKind.eq_parameter_of_record {r inner : RecordKind} {key : String} {required : Bool}
    (h : r.members.get? key = some ⟨.record inner, required⟩) : key = "parameter" := by
  have hmem := Assoc.mem_of_get? h
  cases r <;> simp [members] at hmem
  exact hmem.1

/-- The message of the error starts with the path of the place, which is one of the format. The
value there is of a kind that the place does not allow, and the message says so of it. Only where
the message says that something is required, or at the parameter of a value, there may be no value
but only the object that lacks it. -/
structure DecodeError.PointsAt (e : DecodeError) (document : Json) (path : Path) (place : Place)
    (v : Json) : Prop where
  onFormat : Place.root.at? path = some place
  holds : document.HoldsAt path v
  refused : ¬ place.Admits v
  message : e.message = path.text ++ place.shape.complaint v
  required : "is required".toList <:+ e.message.toList → v = .null
  present : Json.follow? path document = some v ∨ "is required".toList <:+ e.message.toList ∨
    path.getLast? = some (.key "parameter")

/-- **An error of the decoder points at a fault of the document.** -/
theorem Schema.decode_pointsAt {document : Json} {e : DecodeError}
    (h : Schema.decode document = .error e) :
    ∃ path place v, e.PointsAt document path place v := by
  obtain ⟨path, place, v, hat, hholds, hrefused, hmessage⟩ := throws_decode document e h
  rw [List.nil_append] at hmessage
  refine ⟨path, place, v, hat, hholds, hrefused, hmessage, fun hsuffix => ?_, ?_⟩
  · exact eq_null_of_suffix (hmessage ▸ hsuffix)
  · rcases hholds with hfollow | ⟨rfl, parent, key, members, rfl, -, -⟩
    · exact .inl hfollow
    -- Of a missing member it is said that it is required, unless it should be a record.
    · obtain ⟨r, hmember⟩ := Place.exists_member_of_at? hat
      obtain ⟨shape, required⟩ := place
      cases shape with
      | record inner =>
        obtain rfl := RecordKind.eq_parameter_of_record hmember
        exact .inr (.inr List.getLast?_concat)
      | _ =>
        have hsaid : "is required".toList <:+ " is required".toList := by decide
        rw [hmessage, String.toList_append]
        exact .inr (.inl (hsaid.trans (List.suffix_append _ _)))

/-- A document in which the second value of an event has no parameter. -/
def Schema.lacking : Json := .obj [
  ("projectId", .str "shop"),
  ("versionNumber", .int 2),
  ("events", .arr [.obj [
    ("id", .int 7),
    ("name", .str "Open"),
    ("values", .arr [
      .obj [
        ("parameter", .obj [("name", .str "source"), ("typeName", .str "String")]),
        ("stringValue", .str "map")],
      .obj [("stringValue", .str "list")]])]])]

/-- The message leads to the value, whose parameter is missing. -/
theorem Schema.decode_pointsAt_lacking : ∃ e path place v,
    Schema.decode lacking = .error e ∧ e.PointsAt lacking path place v ∧
      e.message = "events[0].values[1].parameter must be an object, got NoneType" := by
  have h : Schema.decode lacking = .error (.notAnObject
      [.key "events", .index 0, .key "values", .index 1, .key "parameter"] .null) := rfl
  obtain ⟨path, place, v, hpoints⟩ := decode_pointsAt h
  exact ⟨_, path, place, v, h, hpoints, by decide⟩

end TrackingPlan
