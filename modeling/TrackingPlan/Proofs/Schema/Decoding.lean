import TrackingPlan.Proofs.Pairing
import TrackingPlan.Proofs.Steps
import TrackingPlan.Schema.Decoder

/-!
# Which documents are schemas, and of what

The grammar of schema documents says of which kind each member has to be; a missing member is a
null one. A schema mirrors a document when every field holds what the document says there, or the
default where it says nothing. The decoder gives the schemas that mirror the document, and it
gives one exactly when the document follows the grammar.

Key definitions: `Json.field`, `Json.IsOptional`, `WellFormed.Schema`, `Schema.Mirrors`.
Key theorems: `Decode.parameter_eq_ok`, `Decode.event_eq_ok`, `Schema.decode_eq_ok`,
`Schema.decode_exact`.
-/

namespace TrackingPlan

open Steps

namespace Json

variable {α : Type}

/-- A member of a value; what is no object has null for every member. -/
def field (v : Json) (key : String) : Json :=
  match v with
  | obj members => member members key
  | _ => null

/-- The items of a value; what is no list has none. -/
def items : Json → List Json
  | arr items => items
  | _ => []

/-- A value of the kind, or none. -/
def IsOptional (v : Json) (kind : Kind) : Prop := v.kind = .null ∨ v.kind = kind

/-- The value that stands for something that may be missing. -/
def ofOption (f : α → Json) : Option α → Json
  | none => null
  | some a => f a

variable {v : Json}

theorem kind_eq_text : v.kind = .text ↔ ∃ s, v = str s := by cases v <;> simp [kind]

theorem kind_eq_integer : v.kind = .integer ↔ ∃ n, v = int n := by cases v <;> simp [kind]

theorem kind_eq_object : v.kind = .object ↔ ∃ members, v = obj members := by
  cases v <;> simp [kind]

theorem isOptional_text : v.IsOptional .text ↔ ∃ x, v = ofOption str x := by
  cases v <;> simp [IsOptional, kind, Option.exists, ofOption]

theorem isOptional_integer : v.IsOptional .integer ↔ ∃ x, v = ofOption int x := by
  cases v <;> simp [IsOptional, kind, Option.exists, ofOption]

theorem isOptional_boolean : v.IsOptional .boolean ↔ ∃ x, v = ofOption bool x := by
  cases v <;> simp [IsOptional, kind, Option.exists, ofOption]

end Json

/-! ### The grammar -/

namespace WellFormed

structure Parameter (v : Json) : Prop where
  object : v.kind = .object
  name : (v.field "name").kind = .text
  typeName : (v.field "typeName").kind = .text
  description : (v.field "description").IsOptional .text
  publishName : (v.field "publishName").IsOptional .text

structure Value (v : Json) : Prop where
  object : v.kind = .object
  parameter : Parameter (v.field "parameter")
  string : (v.field "stringValue").IsOptional .text
  integer : (v.field "integerValue").IsOptional .integer
  boolean : (v.field "booleanValue").IsOptional .boolean
  stringEnum : (v.field "stringEnumValue").IsOptional .text

structure Tag (v : Json) : Prop where
  object : v.kind = .object
  name : (v.field "name").kind = .text
  tagClass : (v.field "class").IsOptional .text

structure Event (v : Json) : Prop where
  object : v.kind = .object
  id : (v.field "id").kind = .integer
  name : (v.field "name").kind = .text
  description : (v.field "description").IsOptional .text
  values : (v.field "values").IsOptional .list
  eachValue : ∀ x ∈ (v.field "values").items, Value x
  parameters : (v.field "parameters").IsOptional .list
  eachParameter : ∀ x ∈ (v.field "parameters").items, Parameter x
  tags : (v.field "tags").IsOptional .list
  eachTag : ∀ x ∈ (v.field "tags").items, Tag x

structure SchemaType (v : Json) : Prop where
  object : v.kind = .object
  name : (v.field "name").kind = .text
  stringEnum : (v.field "stringEnum").IsOptional .list
  eachString : ∀ x ∈ (v.field "stringEnum").items, x.kind = .text

/-- A document that is a schema. -/
structure Schema (v : Json) : Prop where
  object : v.kind = .object
  projectId : (v.field "projectId").kind = .text
  versionNumber : (v.field "versionNumber").kind = .integer
  events : (v.field "events").kind = .list
  eachEvent : ∀ x ∈ (v.field "events").items, Event x
  types : (v.field "types").IsOptional .list
  eachType : ∀ x ∈ (v.field "types").items, SchemaType x

end WellFormed

/-! ### What a schema says of its document -/

open Json

/-- The text is that of a member, or empty when the member is missing. -/
def TextOrEmpty (text : String) (v : Json) : Prop := ∃ x, v = ofOption str x ∧ text = x.getD ""

/-- A parameter has its own name as publish name when the document has none or an empty one, and a
type of the schema only under a name that is no primitive one. -/
structure Parameter.Mirrors (p : Parameter) (v : Json) : Prop where
  object : v.kind = .object
  name : v.field "name" = str p.name
  typeName : v.field "typeName" = str p.type.name
  type : ∀ n, p.type = .named n → ∀ q : Primitive, n ≠ q.name
  description : TextOrEmpty p.description (v.field "description")
  publishName : ∃ text, TextOrEmpty text (v.field "publishName") ∧
    p.publishName = if text = "" then p.name else text

structure Value.Mirrors (x : Value) (v : Json) : Prop where
  object : v.kind = .object
  parameter : x.parameter.Mirrors (v.field "parameter")
  string : v.field "stringValue" = ofOption str x.string
  integer : v.field "integerValue" = ofOption int x.integer
  boolean : v.field "booleanValue" = ofOption bool x.boolean
  stringEnum : v.field "stringEnumValue" = ofOption str x.stringEnum

structure Tag.Mirrors (t : Tag) (v : Json) : Prop where
  object : v.kind = .object
  name : v.field "name" = str t.name
  tagClass : TextOrEmpty t.tagClass (v.field "class")

structure Event.Mirrors (e : Event) (v : Json) : Prop where
  object : v.kind = .object
  id : v.field "id" = int e.id
  name : v.field "name" = str e.name
  description : TextOrEmpty e.description (v.field "description")
  values : (v.field "values").IsOptional .list
  eachValue : List.Forall₂ (fun v x => Value.Mirrors x v) (v.field "values").items e.values
  parameters : (v.field "parameters").IsOptional .list
  eachParameter : List.Forall₂ (fun v p => Parameter.Mirrors p v) (v.field "parameters").items
    e.parameters
  tags : (v.field "tags").IsOptional .list
  eachTag : List.Forall₂ (fun v t => Tag.Mirrors t v) (v.field "tags").items e.tags

structure SchemaType.Mirrors (t : SchemaType) (v : Json) : Prop where
  object : v.kind = .object
  name : v.field "name" = str t.name
  stringEnum : v.field "stringEnum" = ofOption (fun strings => arr (strings.map str)) t.stringEnum

structure Schema.Mirrors (s : Schema) (v : Json) : Prop where
  object : v.kind = .object
  projectId : v.field "projectId" = str s.projectId
  versionNumber : v.field "versionNumber" = int s.versionNumber
  events : (v.field "events").kind = .list
  eachEvent : List.Forall₂ (fun v e => Event.Mirrors e v) (v.field "events").items s.events
  types : (v.field "types").IsOptional .list
  eachType : List.Forall₂ (fun v t => SchemaType.Mirrors t v) (v.field "types").items s.types

/-- A type by its name: a primitive one if the name is that of one. -/
theorem ParameterType.ofName_eq_iff {name : String} {type : ParameterType} :
    ofName name = type ↔ name = type.name ∧ ∀ n, type = named n → ∀ q : Primitive, n ≠ q.name := by
  constructor
  · rintro rfl
    unfold ofName
    split
    · exact ⟨‹_›, nofun⟩
    · split
      · exact ⟨‹_›, nofun⟩
      · split
        · exact ⟨‹_›, nofun⟩
        · refine ⟨rfl, fun n hn q => ?_⟩
          obtain rfl := ParameterType.named.inj hn
          cases q <;> assumption
  · rintro ⟨rfl, hnamed⟩
    cases type with
    | primitive p => cases p <;> rfl
    | named n =>
      have hn := hnamed n rfl
      rw [ofName, name, if_neg (hn .string), if_neg (hn .integer), if_neg (hn .boolean)]

namespace Decode

variable {node : Assoc Json} {path : Path} {key : String}

/-! ### The members -/

theorem object_eq_ok {v : Json} : object path v = .ok node ↔ v = obj node := by
  cases v <;> simp [object]

theorem text?_eq_ok {x : Option String} :
    text? node path key = .ok x ↔ member node key = ofOption str x := by
  unfold text?
  cases member node key <;> cases x <;> simp [ofOption]

theorem integer?_eq_ok {x : Option Int} :
    integer? node path key = .ok x ↔ member node key = ofOption int x := by
  unfold integer?
  cases member node key <;> cases x <;> simp [ofOption]

theorem boolean?_eq_ok {x : Option Bool} :
    boolean? node path key = .ok x ↔ member node key = ofOption bool x := by
  unfold boolean?
  cases member node key <;> cases x <;> simp [ofOption]

theorem required_eq_ok {α : Type} {x : Result (Option α)} {a : α} :
    required path key x = .ok a ↔ x = .ok (some a) := by
  unfold required
  split <;> simp_all

theorem text_eq_ok {s : String} : text node path key = .ok s ↔ member node key = str s := by
  rw [text, required_eq_ok, text?_eq_ok]
  rfl

theorem integer_eq_ok {n : Int} : integer node path key = .ok n ↔ member node key = int n := by
  rw [integer, required_eq_ok, integer?_eq_ok]
  rfl

theorem list_eq_ok {xs : List Json} : list node path key = .ok xs ↔
    (member node key).IsOptional .list ∧ (member node key).items = xs := by
  unfold list
  cases member node key <;> simp [IsOptional, kind, Json.items]

theorem requiredList_eq_ok {xs : List Json} : requiredList node path key = .ok xs ↔
    (member node key).kind = .list ∧ (member node key).items = xs := by
  unfold requiredList
  cases member node key <;> simp [kind, Json.items]

theorem items_eq_ok {α : Type} {decode : Path → Json → Result α} {R : Json → α → Prop}
    (h : ∀ path v a, decode path v = .ok a ↔ R v a) : ∀ (i : Nat) (vs : List Json) (xs : List α),
      items decode path i vs = .ok xs ↔ List.Forall₂ R vs xs
  | _, [], xs => by
    rw [items, List.forall₂_nil_left_iff, Except.ok.injEq]
    exact eq_comm
  | i, v :: vs, xs => by
    have ih := items_eq_ok h (i + 1) vs
    simp only [items, bind_eq_ok, pure_eq_ok, h, ih, List.forall₂_cons_left_iff]
    constructor
    · rintro ⟨x, hx, rest, hrest, rfl⟩
      exact ⟨x, rest, hx, hrest, rfl⟩
    · rintro ⟨x, rest, hx, hrest, rfl⟩
      exact ⟨x, hx, rest, hrest, rfl⟩

theorem strings?_eq_some : ∀ {entries : List Json} {strings : List String},
    strings? entries = some strings ↔ entries = strings.map str
  | [], strings => by
    rw [strings?, Option.some.injEq, eq_comm, List.nil_eq, List.map_eq_nil_iff]
  | v :: entries, strings => by
    cases v with
    | str s =>
      rw [strings?, Option.map_eq_some_iff]
      constructor
      · rintro ⟨rest, hrest, rfl⟩
        rw [strings?_eq_some.mp hrest, List.map_cons]
      · intro h
        obtain ⟨t, rest, rfl, ht, hrest⟩ := List.map_eq_cons_iff.mp h.symm
        obtain rfl := Json.str.inj ht
        exact ⟨rest, strings?_eq_some.mpr hrest.symm, rfl⟩
    | _ => cases strings <;> simp [strings?]

theorem stringEnum_eq_ok {x : Option (List String)} : stringEnum node path = .ok x ↔
    member node "stringEnum" = ofOption (fun strings => arr (strings.map str)) x := by
  unfold stringEnum
  cases hv : member node "stringEnum" with
  | null => cases x <;> simp [ofOption]
  | arr entries =>
    have hentries (strings : List String) :
        strings? entries = some strings ↔ arr entries = arr (strings.map str) := by
      rw [strings?_eq_some, Json.arr.injEq]
    cases x with
    | none =>
      simp only [ofOption, reduceCtorEq, iff_false]
      split <;> simp
    | some strings =>
      simp only [ofOption, ← hentries]
      cases strings? entries <;> simp
  | _ => cases x <;> simp [ofOption]

/-! ### The records -/

theorem parameter_eq_ok (path : Path) (v : Json) (p : Parameter) :
    parameter path v = .ok p ↔ p.Mirrors v := by
  simp only [parameter, bind_eq_ok, object_eq_ok, text_eq_ok, text?_eq_ok, pure_eq_ok]
  constructor
  · rintro ⟨node, rfl, name, hname, typeName, htype, description, hdescription, publishName,
      hpublish, rfl⟩
    obtain ⟨htypeName, hnamed⟩ :=
      ParameterType.ofName_eq_iff.mp (rfl : _ = ParameterType.ofName typeName)
    exact ⟨rfl, hname, htypeName ▸ htype, hnamed, ⟨_, hdescription, rfl⟩, _, ⟨_, hpublish, rfl⟩,
      rfl⟩
  · intro h
    obtain ⟨node, rfl⟩ := kind_eq_object.mp h.object
    obtain ⟨name, type, description, publishName⟩ := p
    obtain ⟨x, hx, hdescription⟩ := h.description
    obtain ⟨_, ⟨y, hy, rfl⟩, hpublish⟩ := h.publishName
    refine ⟨node, rfl, name, h.name, type.name, h.typeName, x, hx, y, hy, ?_⟩
    have htype := ParameterType.ofName_eq_iff.mpr ⟨rfl, h.type⟩
    simp only at hdescription hpublish htype
    rw [hdescription, hpublish, htype]

theorem value_eq_ok (path : Path) (v : Json) (x : Value) :
    value path v = .ok x ↔ x.Mirrors v := by
  simp only [value, bind_eq_ok, object_eq_ok, parameter_eq_ok, text?_eq_ok, integer?_eq_ok,
    boolean?_eq_ok, pure_eq_ok]
  constructor
  · rintro ⟨node, rfl, parameter, hparameter, string, hstring, integer, hinteger, boolean,
      hboolean, stringEnum, henum, rfl⟩
    exact ⟨rfl, hparameter, hstring, hinteger, hboolean, henum⟩
  · intro h
    obtain ⟨node, rfl⟩ := kind_eq_object.mp h.object
    exact ⟨node, rfl, _, h.parameter, _, h.string, _, h.integer, _, h.boolean, _, h.stringEnum,
      rfl⟩

theorem tag_eq_ok (path : Path) (v : Json) (t : Tag) : tag path v = .ok t ↔ t.Mirrors v := by
  simp only [tag, bind_eq_ok, object_eq_ok, text_eq_ok, text?_eq_ok, pure_eq_ok]
  constructor
  · rintro ⟨node, rfl, name, hname, tagClass, hclass, rfl⟩
    exact ⟨rfl, hname, _, hclass, rfl⟩
  · intro h
    obtain ⟨node, rfl⟩ := kind_eq_object.mp h.object
    obtain ⟨name, tagClass⟩ := t
    obtain ⟨x, hx, rfl⟩ := h.tagClass
    exact ⟨node, rfl, name, h.name, x, hx, rfl⟩

/-- An event is decoded from an object whose members, each item of its lists included, are those
of the event. -/
theorem event_eq_ok (path : Path) (v : Json) (e : Event) :
    event path v = .ok e ↔ e.Mirrors v := by
  simp only [event, bind_eq_ok, object_eq_ok, list_eq_ok, integer_eq_ok, text_eq_ok, text?_eq_ok,
    items_eq_ok value_eq_ok, items_eq_ok parameter_eq_ok, items_eq_ok tag_eq_ok, pure_eq_ok]
  constructor
  · rintro ⟨node, rfl, _, ⟨hvalues, rfl⟩, _, ⟨hparameters, rfl⟩, _, ⟨htags, rfl⟩, id, hid, name,
      hname, description, hdescription, values, heachValue, parameters, heachParameter, tags,
      heachTag, rfl⟩
    exact ⟨rfl, hid, hname, ⟨_, hdescription, rfl⟩, hvalues, heachValue, hparameters,
      heachParameter, htags, heachTag⟩
  · intro h
    obtain ⟨node, rfl⟩ := kind_eq_object.mp h.object
    obtain ⟨id, name, description, values, parameters, tags⟩ := e
    obtain ⟨x, hx, rfl⟩ := h.description
    exact ⟨node, rfl, _, ⟨h.values, rfl⟩, _, ⟨h.parameters, rfl⟩, _, ⟨h.tags, rfl⟩, id, h.id,
      name, h.name, x, hx, values, h.eachValue, parameters, h.eachParameter, tags, h.eachTag, rfl⟩

theorem schemaType_eq_ok (path : Path) (v : Json) (t : SchemaType) :
    schemaType path v = .ok t ↔ t.Mirrors v := by
  simp only [schemaType, bind_eq_ok, object_eq_ok, text_eq_ok, stringEnum_eq_ok, pure_eq_ok]
  constructor
  · rintro ⟨node, rfl, stringEnum, henum, name, hname, rfl⟩
    exact ⟨rfl, hname, henum⟩
  · intro h
    obtain ⟨node, rfl⟩ := kind_eq_object.mp h.object
    exact ⟨node, rfl, _, h.stringEnum, _, h.name, rfl⟩

end Decode

namespace Schema

open Decode

/-- **The decoder gives the schemas that mirror the document.** -/
theorem decode_eq_ok {v : Json} {s : Schema} : decode v = .ok s ↔ s.Mirrors v := by
  simp only [decode, bind_eq_ok, object_eq_ok, requiredList_eq_ok, list_eq_ok, text_eq_ok,
    integer_eq_ok, items_eq_ok event_eq_ok, items_eq_ok schemaType_eq_ok, pure_eq_ok]
  constructor
  · rintro ⟨node, rfl, _, ⟨hevents, rfl⟩, _, ⟨htypes, rfl⟩, projectId, hproject, versionNumber,
      hversion, events, heachEvent, types, heachType, rfl⟩
    exact ⟨rfl, hproject, hversion, hevents, heachEvent, htypes, heachType⟩
  · intro h
    obtain ⟨node, rfl⟩ := kind_eq_object.mp h.object
    exact ⟨node, rfl, _, ⟨h.events, rfl⟩, _, ⟨h.types, rfl⟩, _, h.projectId, _, h.versionNumber,
      _, h.eachEvent, _, h.eachType, rfl⟩

end Schema

/-! ### Every document of the grammar is one of a schema -/

section

variable {v : Json}

theorem exists_textOrEmpty : (∃ text, TextOrEmpty text v) ↔ v.IsOptional .text := by
  rw [isOptional_text]
  constructor
  · rintro ⟨_, x, hx, -⟩
    exact ⟨x, hx⟩
  · rintro ⟨x, hx⟩
    exact ⟨_, x, hx, rfl⟩

theorem exists_forall₂_iff {α : Type} {R : Json → α → Prop} {G : Json → Prop}
    (h : ∀ v, (∃ x, R v x) ↔ G v) {vs : List Json} :
    (∃ xs, List.Forall₂ R vs xs) ↔ ∀ v ∈ vs, G v := by
  constructor
  · rintro ⟨xs, hxs⟩ v hv
    obtain ⟨x, -, hx⟩ := Pairing.exists_right hxs hv
    exact (h v).mp ⟨x, hx⟩
  · exact fun hall => Pairing.exists_of_forall fun v hv => (h v).mpr (hall v hv)

theorem exists_parameter_iff (v : Json) :
    (∃ p : Parameter, p.Mirrors v) ↔ WellFormed.Parameter v := by
  constructor
  · rintro ⟨p, h⟩
    obtain ⟨text, htext, -⟩ := h.publishName
    exact ⟨h.object, kind_eq_text.mpr ⟨_, h.name⟩, kind_eq_text.mpr ⟨_, h.typeName⟩,
      exists_textOrEmpty.mp ⟨_, h.description⟩, exists_textOrEmpty.mp ⟨_, htext⟩⟩
  · intro h
    obtain ⟨name, hname⟩ := kind_eq_text.mp h.name
    obtain ⟨typeName, htype⟩ := kind_eq_text.mp h.typeName
    obtain ⟨description, hdescription⟩ := exists_textOrEmpty.mpr h.description
    obtain ⟨publishName, hpublish⟩ := exists_textOrEmpty.mpr h.publishName
    obtain ⟨htypeName, hnamed⟩ :=
      ParameterType.ofName_eq_iff.mp (rfl : _ = ParameterType.ofName typeName)
    exact ⟨⟨name, .ofName typeName, description, if publishName = "" then name else publishName⟩,
      h.object, hname, htypeName ▸ htype, hnamed, hdescription, publishName, hpublish, rfl⟩

theorem exists_value_iff (v : Json) : (∃ x : Value, x.Mirrors v) ↔ WellFormed.Value v := by
  constructor
  · rintro ⟨x, h⟩
    exact ⟨h.object, (exists_parameter_iff _).mp ⟨_, h.parameter⟩,
      isOptional_text.mpr ⟨_, h.string⟩, isOptional_integer.mpr ⟨_, h.integer⟩,
      isOptional_boolean.mpr ⟨_, h.boolean⟩, isOptional_text.mpr ⟨_, h.stringEnum⟩⟩
  · intro h
    obtain ⟨parameter, hparameter⟩ := (exists_parameter_iff _).mpr h.parameter
    obtain ⟨string, hstring⟩ := isOptional_text.mp h.string
    obtain ⟨integer, hinteger⟩ := isOptional_integer.mp h.integer
    obtain ⟨boolean, hboolean⟩ := isOptional_boolean.mp h.boolean
    obtain ⟨stringEnum, henum⟩ := isOptional_text.mp h.stringEnum
    exact ⟨⟨parameter, string, integer, boolean, stringEnum⟩, h.object, hparameter, hstring,
      hinteger, hboolean, henum⟩

theorem exists_tag_iff (v : Json) : (∃ t : Tag, t.Mirrors v) ↔ WellFormed.Tag v := by
  constructor
  · rintro ⟨t, h⟩
    exact ⟨h.object, kind_eq_text.mpr ⟨_, h.name⟩, exists_textOrEmpty.mp ⟨_, h.tagClass⟩⟩
  · intro h
    obtain ⟨name, hname⟩ := kind_eq_text.mp h.name
    obtain ⟨tagClass, hclass⟩ := exists_textOrEmpty.mpr h.tagClass
    exact ⟨⟨name, tagClass⟩, h.object, hname, hclass⟩

theorem exists_event_iff (v : Json) : (∃ e : Event, e.Mirrors v) ↔ WellFormed.Event v := by
  constructor
  · rintro ⟨e, h⟩
    exact ⟨h.object, kind_eq_integer.mpr ⟨_, h.id⟩, kind_eq_text.mpr ⟨_, h.name⟩,
      exists_textOrEmpty.mp ⟨_, h.description⟩, h.values,
      (exists_forall₂_iff exists_value_iff).mp ⟨_, h.eachValue⟩, h.parameters,
      (exists_forall₂_iff exists_parameter_iff).mp ⟨_, h.eachParameter⟩, h.tags,
      (exists_forall₂_iff exists_tag_iff).mp ⟨_, h.eachTag⟩⟩
  · intro h
    obtain ⟨id, hid⟩ := kind_eq_integer.mp h.id
    obtain ⟨name, hname⟩ := kind_eq_text.mp h.name
    obtain ⟨description, hdescription⟩ := exists_textOrEmpty.mpr h.description
    obtain ⟨values, hvalues⟩ := (exists_forall₂_iff exists_value_iff).mpr h.eachValue
    obtain ⟨parameters, hparameters⟩ := (exists_forall₂_iff exists_parameter_iff).mpr h.eachParameter
    obtain ⟨tags, htags⟩ := (exists_forall₂_iff exists_tag_iff).mpr h.eachTag
    exact ⟨⟨id, name, description, values, parameters, tags⟩, h.object, hid, hname, hdescription,
      h.values, hvalues, h.parameters, hparameters, h.tags, htags⟩

theorem exists_strings_iff :
    (∃ x, v = ofOption (fun strings : List String => arr (strings.map str)) x) ↔
      v.IsOptional .list ∧ ∀ x ∈ v.items, x.kind = .text := by
  constructor
  · rintro ⟨x, rfl⟩
    cases x with
    | none => exact ⟨Or.inl rfl, fun _ hx => absurd hx List.not_mem_nil⟩
    | some strings =>
      refine ⟨Or.inr rfl, fun x hx => ?_⟩
      obtain ⟨s, -, rfl⟩ := List.mem_map.mp hx
      rfl
  · rintro ⟨hlist, hall⟩
    cases v with
    | null => exact ⟨none, rfl⟩
    | arr entries =>
      obtain ⟨strings, hstrings⟩ : ∃ strings, List.Forall₂ (fun x s => str s = x) entries strings :=
        Pairing.exists_of_forall fun x hx => by
          obtain ⟨s, hs⟩ := kind_eq_text.mp (hall x hx)
          exact ⟨s, hs.symm⟩
      exact ⟨some strings, congrArg arr (Pairing.eq_map hstrings.flip fun h => h)⟩
    | _ => exact absurd hlist (by simp [IsOptional, kind])

theorem exists_schemaType_iff (v : Json) :
    (∃ t : SchemaType, t.Mirrors v) ↔ WellFormed.SchemaType v := by
  constructor
  · rintro ⟨t, h⟩
    obtain ⟨hlist, hall⟩ := exists_strings_iff.mp ⟨_, h.stringEnum⟩
    exact ⟨h.object, kind_eq_text.mpr ⟨_, h.name⟩, hlist, hall⟩
  · intro h
    obtain ⟨name, hname⟩ := kind_eq_text.mp h.name
    obtain ⟨stringEnum, henum⟩ := exists_strings_iff.mpr ⟨h.stringEnum, h.eachString⟩
    exact ⟨⟨name, stringEnum⟩, h.object, hname, henum⟩

theorem exists_schema_iff (v : Json) : (∃ s : Schema, s.Mirrors v) ↔ WellFormed.Schema v := by
  constructor
  · rintro ⟨s, h⟩
    exact ⟨h.object, kind_eq_text.mpr ⟨_, h.projectId⟩, kind_eq_integer.mpr ⟨_, h.versionNumber⟩,
      h.events, (exists_forall₂_iff exists_event_iff).mp ⟨_, h.eachEvent⟩, h.types,
      (exists_forall₂_iff exists_schemaType_iff).mp ⟨_, h.eachType⟩⟩
  · intro h
    obtain ⟨projectId, hproject⟩ := kind_eq_text.mp h.projectId
    obtain ⟨versionNumber, hversion⟩ := kind_eq_integer.mp h.versionNumber
    obtain ⟨events, hevents⟩ := (exists_forall₂_iff exists_event_iff).mpr h.eachEvent
    obtain ⟨types, htypes⟩ := (exists_forall₂_iff exists_schemaType_iff).mpr h.eachType
    exact ⟨⟨projectId, versionNumber, events, types⟩, h.object, hproject, hversion, h.events,
      hevents, h.types, htypes⟩

end

/-- **The decoder accepts exactly the documents of the grammar**, and gives for each of them the
schema that mirrors it. -/
theorem Schema.decode_exact (v : Json) :
    ((∃ s, Schema.decode v = .ok s) ↔ WellFormed.Schema v) ∧
      ∀ s, Schema.decode v = .ok s ↔ s.Mirrors v := by
  refine ⟨?_, fun s => decode_eq_ok⟩
  rw [← exists_schema_iff]
  exact exists_congr fun s => decode_eq_ok

end TrackingPlan
