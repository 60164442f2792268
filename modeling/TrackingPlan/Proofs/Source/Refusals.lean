import Mathlib.Data.List.Induction
import TrackingPlan.Proofs.Source.Function
import TrackingPlan.Proofs.Source.Payloads

/-!
# Which events are refused

An event has no function for one of these reasons, which are looked for in a fixed order: two of its
parameters cannot be told apart, its event type cannot be used, it has none although there has to be
one, one of its values has no text, its id has none although the records carry it, or the marker of
tags in the conventions is no text. Without conventions there is no function either. Each step of
the way to the function fails for its own reason only, and names the first parameter or value that
is at fault.

Key definitions: `DistinctParameters`, `FirstRepeats`, `Event.HasUsableType`, `Event.Refuses`,
`Event.Fails`.
Key theorems: `Event.checkParameters_eq_error`, `Event.eventType_eq_error`,
`Event.toFunctionUnder_eq_error`, `Event.toFunction_eq_error`, `Event.toFunction_fails`,
`Event.toFunction_refuses_iff`.
-/

namespace TrackingPlan

open Naming Steps

/-! ### Parameters -/

/-- Neither the names of the parameters nor the identifiers made of them repeat each other. -/
structure DistinctParameters (ps : List Parameter) : Prop where
  names : (ps.map (·.name)).Nodup
  identifiers : (ps.map (parameterName ·.name)).Nodup

/-- The first parameter that cannot be told from those before it, by what it repeats: its name, or
only its identifier. -/
inductive FirstRepeats (ps : List Parameter) : String → Prop
  | name {before after : List Parameter} {p : Parameter} : ps = before ++ p :: after →
      DistinctParameters before → p.name ∈ before.map (·.name) → FirstRepeats ps p.name
  | identifier {before after : List Parameter} {p : Parameter} : ps = before ++ p :: after →
      DistinctParameters before → p.name ∉ before.map (·.name) →
      parameterName p.name ∈ before.map (parameterName ·.name) →
      FirstRepeats ps (parameterName p.name)

variable {ps before : List Parameter} {p : Parameter}

theorem distinctParameters_concat : DistinctParameters (before ++ [p]) ↔
    DistinctParameters before ∧ p.name ∉ before.map (·.name) ∧
      parameterName p.name ∉ before.map (parameterName ·.name) := by
  have hconcat (key : Parameter → String) : ((before ++ [p]).map key).Nodup ↔
      (before.map key).Nodup ∧ key p ∉ before.map key := by
    rw [List.map_append, List.map_singleton, ← List.concat_eq_append, List.nodup_concat,
      and_comm]
  constructor
  · rintro ⟨hnames, hidentifiers⟩
    obtain ⟨hnames, hname⟩ := (hconcat _).mp hnames
    obtain ⟨hidentifiers, hidentifier⟩ := (hconcat _).mp hidentifiers
    exact ⟨⟨hnames, hidentifiers⟩, hname, hidentifier⟩
  · rintro ⟨⟨hnames, hidentifiers⟩, hname, hidentifier⟩
    exact ⟨(hconcat _).mpr ⟨hnames, hname⟩, (hconcat _).mpr ⟨hidentifiers, hidentifier⟩⟩

namespace Event

variable {event : Event} {options : Options} {conventions : Conventions} {name : String}
  {e : BuildError}

theorem checkParameters_eq_ok_iff :
    checkParameters name [] [] ps = .ok () ↔ DistinctParameters ps := by
  rw [checkParameters_eq_ok]
  constructor
  · rintro ⟨⟨hnames, -⟩, hidentifiers, -⟩
    exact ⟨hnames, hidentifiers⟩
  · rintro ⟨hnames, hidentifiers⟩
    exact ⟨⟨hnames, fun _ _ => List.not_mem_nil⟩, hidentifiers, fun _ _ => List.not_mem_nil⟩

/-- Parameters that can be told apart are passed over, and remembered. -/
theorem checkParameters_append (rest : List Parameter) (h : DistinctParameters before) :
    checkParameters name [] [] (before ++ rest) = checkParameters name
      (before.map (·.name)).reverse (before.map (parameterName ·.name)).reverse rest := by
  induction before using List.reverseRecOn generalizing rest with
  | nil => rfl
  | append_singleton before p ih =>
    obtain ⟨hbefore, hname, hidentifier⟩ := distinctParameters_concat.mp h
    rw [List.append_assoc, List.singleton_append, ih (p :: rest) hbefore, checkParameters,
      if_neg (List.mem_reverse.not.mpr hname), if_neg (List.mem_reverse.not.mpr hidentifier)]
    simp only [List.map_append, List.map_singleton, List.reverse_append, List.reverse_singleton,
      List.singleton_append]

/-- The induction goes along the parameters, with those that were accepted so far. -/
theorem firstRepeats_of_checkParameters (before : List Parameter)
    (hbefore : DistinctParameters before)
    (h : checkParameters name (before.map (·.name)).reverse
      (before.map (parameterName ·.name)).reverse ps = .error e) :
    ∃ x, FirstRepeats (before ++ ps) x ∧ e = .duplicateIdentifier (.parameters name) x := by
  induction ps generalizing before with
  | nil => exact nomatch h
  | cons p rest ih =>
    rw [checkParameters] at h
    split at h
    · rename_i hname
      exact ⟨p.name, .name rfl hbefore (List.mem_reverse.mp hname), (Except.error.inj h).symm⟩
    · rename_i hname
      rw [List.mem_reverse] at hname
      split at h
      · rename_i hidentifier
        have hrepeats : FirstRepeats (before ++ p :: rest) (parameterName p.name) :=
          .identifier rfl hbefore hname (List.mem_reverse.mp hidentifier)
        exact ⟨parameterName p.name, hrepeats, (Except.error.inj h).symm⟩
      · rename_i hidentifier
        rw [List.mem_reverse] at hidentifier
        have hnext := distinctParameters_concat.mpr ⟨hbefore, hname, hidentifier⟩
        rw [← List.singleton_append, ← List.append_assoc]
        refine ih _ hnext ?_
        simpa only [List.map_append, List.map_singleton, List.reverse_append,
          List.reverse_singleton, List.singleton_append] using h

/-- Parameters are refused for the first one that repeats another. -/
theorem checkParameters_eq_error : checkParameters name [] [] ps = .error e ↔
    ∃ x, FirstRepeats ps x ∧ e = .duplicateIdentifier (.parameters name) x := by
  constructor
  · exact firstRepeats_of_checkParameters [] ⟨List.nodup_nil, List.nodup_nil⟩
  · rintro ⟨_, hrepeats, rfl⟩
    cases hrepeats with
    | name hps hbefore hname =>
      rw [hps, checkParameters_append _ hbefore, checkParameters,
        if_pos (List.mem_reverse.mpr hname)]
    | identifier hps hbefore hname hidentifier =>
      rw [hps, checkParameters_append _ hbefore, checkParameters,
        if_neg (List.mem_reverse.not.mpr hname), if_pos (List.mem_reverse.mpr hidentifier)]

/-! ### The event type -/

/-- The values that set the event type. -/
def eventTypeValues (event : Event) (conventions : Conventions) : List Value :=
  event.values.filter fun v => .str v.parameter.name = conventions.eventTypeParameter

/-- The event type is set once, as a string of an enumeration, or it is not set and need not be. -/
inductive HasUsableType (event : Event) (options : Options) (conventions : Conventions) : Prop
  | set {v : Value} : event.eventTypeValues conventions = [v] → v.HasOnly .stringEnum →
      HasUsableType event options conventions
  | unset : event.eventTypeValues conventions = [] → options.requirePublishEvent = false →
      HasUsableType event options conventions

theorem eventType_eq_ok {type : Option String} : event.eventType conventions = .ok type ↔
    (event.eventTypeValues conventions = [] ∧ type = none) ∨
    ∃ v text, event.eventTypeValues conventions = [v] ∧ v.payloads = [(.stringEnum, some text)] ∧
      type = some text := by
  rw [eventType, ← eventTypeValues]
  rcases event.eventTypeValues conventions with _ | ⟨v, _ | ⟨w, rest⟩⟩
  · simp [@eq_comm _ type]
  · dsimp only
    split
    · rename_i text hpayloads
      simp [hpayloads, @eq_comm _ type]
    · rename_i hother
      simpa using fun text hpayloads => absurd hpayloads (hother text)
  · simp

theorem eventType_eq_error : event.eventType conventions = .error e ↔
    (2 ≤ (event.eventTypeValues conventions).length ∧
      e = .invalidEventType event.name .repeated) ∨
    ∃ v, event.eventTypeValues conventions = [v] ∧ ¬ v.HasOnly .stringEnum ∧
      e = .invalidEventType event.name .notAStringEnum := by
  rw [eventType, ← eventTypeValues]
  rcases event.eventTypeValues conventions with _ | ⟨v, _ | ⟨w, rest⟩⟩
  · simp
  · dsimp only
    split
    · rename_i text hpayloads
      have honly : v.HasOnly .stringEnum := Value.payloads_eq_stringEnum.mp ⟨text, hpayloads⟩
      simp [honly]
    · rename_i hother
      have hnot : ¬ v.HasOnly .stringEnum := by
        intro honly
        obtain ⟨text, hpayloads⟩ := Value.payloads_eq_stringEnum.mpr honly
        exact hother text hpayloads
      simp [hnot, @eq_comm _ e]
  · simp [@eq_comm _ e]

theorem requireEventType_eq_ok {type : Option String} :
    event.requireEventType options type = .ok () ↔
      (type = none → options.requirePublishEvent = false) := by
  cases type <;> simp [requireEventType]

theorem requireEventType_eq_error {type : Option String} :
    event.requireEventType options type = .error e ↔
      type = none ∧ options.requirePublishEvent = true ∧ e = .missingEventType event.name := by
  unfold requireEventType
  split
  · rename_i h
    rw [Option.isNone_iff_eq_none] at h
    simp [h, @eq_comm _ e]
  · rename_i h
    rw [Option.isNone_iff_eq_none] at h
    simpa using fun hnone hrequire => absurd ⟨hnone, hrequire⟩ h

/-- The event type can be used exactly when it passes both checks. -/
theorem hasUsableType_iff : event.HasUsableType options conventions ↔
    ∃ type, event.eventType conventions = .ok type ∧
      event.requireEventType options type = .ok () := by
  simp only [eventType_eq_ok, requireEventType_eq_ok]
  constructor
  · rintro (⟨hvalues, honly⟩ | ⟨hvalues, hrequire⟩)
    · obtain ⟨text, hpayloads⟩ := Value.payloads_eq_stringEnum.mpr honly
      exact ⟨some text, .inr ⟨_, text, hvalues, hpayloads, rfl⟩, fun h => nomatch h⟩
    · exact ⟨none, .inl ⟨hvalues, rfl⟩, fun _ => hrequire⟩
  · rintro ⟨_, ⟨hvalues, rfl⟩ | ⟨v, text, hvalues, hpayloads, rfl⟩, hrequire⟩
    · exact .unset hvalues (hrequire rfl)
    · exact .set hvalues (Value.payloads_eq_stringEnum.mp ⟨text, hpayloads⟩)

/-! ### The id and the marker of tags -/

theorem idText_eq_error {included : Bool} : event.idText included = .error e ↔
    included = true ∧ maxIntegerDigits < digitCount event.id ∧ e = .tooManyDigits := by
  cases included <;> simp [idText, map_eq_error, BuildError.integerText_eq_error]

theorem exists_idText_iff {included : Bool} : (∃ id, event.idText included = .ok id) ↔
    ¬ (included = true ∧ maxIntegerDigits < digitCount event.id) := by
  rw [← failure?_eq_none, Option.eq_none_iff_forall_ne_some]
  simp only [ne_eq, failure?_eq_some, idText_eq_error]
  exact ⟨fun h hlong => h _ ⟨hlong.1, hlong.2, rfl⟩, fun h _ hlong => h ⟨hlong.1, hlong.2.1⟩⟩

theorem tagMarker_eq_error : tagMarker conventions = .error e ↔
    (∀ marker, conventions.consumerTagMarker ≠ .str marker) ∧
      e = .unusable "consumer_tag_marker" := by
  unfold tagMarker
  split
  · rename_i marker hmarker
    simp [hmarker]
  · rename_i hother
    simpa [@eq_comm _ e] using fun _ => hother

/-! ### The function -/

/-- Why conventions give an event no function, in the order in which the reasons are looked for:
each supposes that none before it is there. -/
inductive Refuses (event : Event) (options : Options) (conventions : Conventions) :
    BuildError → Prop
  | repeatedParameter {x : String} : FirstRepeats event.parameters x →
      Refuses event options conventions (.duplicateIdentifier (.parameters event.name) x)
  | repeatedEventType : DistinctParameters event.parameters →
      2 ≤ (event.eventTypeValues conventions).length →
      Refuses event options conventions (.invalidEventType event.name .repeated)
  | notAStringEnum {v : Value} : DistinctParameters event.parameters →
      event.eventTypeValues conventions = [v] → ¬ v.HasOnly .stringEnum →
      Refuses event options conventions (.invalidEventType event.name .notAStringEnum)
  | missingEventType : DistinctParameters event.parameters →
      event.eventTypeValues conventions = [] → options.requirePublishEvent = true →
      Refuses event options conventions (.missingEventType event.name)
  | invalidValue {before after : List Value} {v : Value} : DistinctParameters event.parameters →
      event.HasUsableType options conventions → event.values = before ++ v :: after →
      (∀ w ∈ before, w.IsWritable) → (∀ slot, ¬ v.HasOnly slot) →
      Refuses event options conventions (.invalidValue v.parameter.name v.setSlots)
  | longValue {before after : List Value} {v : Value} : DistinctParameters event.parameters →
      event.HasUsableType options conventions → event.values = before ++ v :: after →
      (∀ w ∈ before, w.IsWritable) → v.HasLongInteger →
      Refuses event options conventions .tooManyDigits
  | longId : DistinctParameters event.parameters → event.HasUsableType options conventions →
      (∀ v ∈ event.values, v.IsWritable) → options.includeSchemaMetadata = true →
      maxIntegerDigits < digitCount event.id → Refuses event options conventions .tooManyDigits
  | marker : DistinctParameters event.parameters → event.HasUsableType options conventions →
      (∀ v ∈ event.values, v.IsWritable) →
      ¬ (options.includeSchemaMetadata = true ∧ maxIntegerDigits < digitCount event.id) →
      (∀ marker, conventions.consumerTagMarker ≠ .str marker) →
      Refuses event options conventions (.unusable "consumer_tag_marker")

/-- Why an event has no function: what it is refused for under the conventions, or where there are
none, what is found before they are asked for, and if nothing is, that there are none. -/
inductive Fails (event : Event) (options : Options) : BuildError → Prop
  | refused {conventions : Conventions} {e : BuildError} : options.conventions = .ok conventions →
      event.Refuses options conventions e → Fails event options e
  | repeatedParameter {v : Json} {x : String} : options.conventions = .error v →
      FirstRepeats event.parameters x →
      Fails event options (.duplicateIdentifier (.parameters event.name) x)
  | missingEventType {v : Json} : options.conventions = .error v →
      DistinctParameters event.parameters → event.values = [] →
      options.requirePublishEvent = true → Fails event options (.missingEventType event.name)
  | noConventions {v : Json} : options.conventions = .error v →
      DistinctParameters event.parameters →
      (event.values = [] → options.requirePublishEvent = false) →
      Fails event options (.unusable "conventions")

/-- The five steps at which conventions refuse an event. -/
theorem toFunctionUnder_eq_error : event.toFunctionUnder options conventions = .error e ↔
    event.eventType conventions = .error e ∨
    (∃ type, event.eventType conventions = .ok type ∧
      event.requireEventType options type = .error e) ∨
    event.HasUsableType options conventions ∧ (event.literals = .error e ∨
      (∃ literals, event.literals = .ok literals) ∧
        (event.idText options.includeSchemaMetadata = .error e ∨
          (∃ id, event.idText options.includeSchemaMetadata = .ok id) ∧
            tagMarker conventions = .error e)) := by
  simp only [toFunctionUnder, bind_eq_error, hasUsableType_iff]
  constructor
  · rintro (htype | ⟨type, htype, hrequire | ⟨_, hrequire, hliterals | ⟨literals, hliterals,
      hid | ⟨id, hid, hmarker | ⟨_, -, hreturn⟩⟩⟩⟩⟩)
    · exact .inl htype
    · exact .inr (.inl ⟨type, htype, hrequire⟩)
    · exact .inr (.inr ⟨⟨type, htype, hrequire⟩, .inl hliterals⟩)
    · exact .inr (.inr ⟨⟨type, htype, hrequire⟩, .inr ⟨⟨literals, hliterals⟩, .inl hid⟩⟩)
    · exact .inr (.inr ⟨⟨type, htype, hrequire⟩,
        .inr ⟨⟨literals, hliterals⟩, .inr ⟨⟨id, hid⟩, hmarker⟩⟩⟩)
    · exact absurd hreturn pure_ne_error
  · rintro (htype | ⟨type, htype, hrequire⟩ | ⟨⟨type, htype, hrequire⟩, hliterals |
      ⟨⟨literals, hliterals⟩, hid | ⟨⟨id, hid⟩, hmarker⟩⟩⟩)
    · exact .inl htype
    · exact .inr ⟨type, htype, .inl hrequire⟩
    · exact .inr ⟨type, htype, .inr ⟨(), hrequire, .inl hliterals⟩⟩
    · exact .inr ⟨type, htype, .inr ⟨(), hrequire, .inr ⟨literals, hliterals, .inl hid⟩⟩⟩
    · exact .inr ⟨type, htype, .inr ⟨(), hrequire, .inr ⟨literals, hliterals,
        .inr ⟨id, hid, .inl hmarker⟩⟩⟩⟩

/-- **Conventions give an event no function for exactly the stated reasons.** -/
theorem toFunction_eq_error (hconventions : options.conventions = .ok conventions) :
    event.toFunction options = .error e ↔ event.Refuses options conventions e := by
  rw [toFunction, hconventions, bind_eq_error, Unique.exists_iff]
  dsimp only
  rw [toFunctionUnder_eq_error, checkParameters_eq_error, checkParameters_eq_ok_iff,
    exists_literals_iff, exists_idText_iff]
  constructor
  · rintro (⟨x, hrepeats, rfl⟩ | ⟨hdistinct, htype | ⟨type, htype, hrequire⟩ |
      ⟨husable, hliterals | ⟨hvalues, hid | ⟨hshort, hmarker⟩⟩⟩⟩)
    · exact .repeatedParameter hrepeats
    · rcases eventType_eq_error.mp htype with ⟨hvalues, rfl⟩ | ⟨v, hvalues, hnot, rfl⟩
      · exact .repeatedEventType hdistinct hvalues
      · exact .notAStringEnum hdistinct hvalues hnot
    · obtain ⟨rfl, hrequired, rfl⟩ := requireEventType_eq_error.mp hrequire
      rcases eventType_eq_ok.mp htype with ⟨hvalues, -⟩ | ⟨_, _, -, -, hsome⟩
      · exact .missingEventType hdistinct hvalues hrequired
      · exact nomatch hsome
    · obtain ⟨before, v, after, hvalues, hbefore, ⟨hnone, rfl⟩ | ⟨hlong, rfl⟩⟩ :=
        literals_eq_error.mp hliterals
      · exact .invalidValue hdistinct husable hvalues hbefore hnone
      · exact .longValue hdistinct husable hvalues hbefore hlong
    · obtain ⟨hincluded, hlong, rfl⟩ := idText_eq_error.mp hid
      exact .longId hdistinct husable hvalues hincluded hlong
    · obtain ⟨hnone, rfl⟩ := tagMarker_eq_error.mp hmarker
      exact .marker hdistinct husable hvalues hshort hnone
  · intro hrefuses
    cases hrefuses with
    | repeatedParameter hrepeats => exact .inl ⟨_, hrepeats, rfl⟩
    | repeatedEventType hdistinct hvalues =>
      exact .inr ⟨hdistinct, .inl (eventType_eq_error.mpr (.inl ⟨hvalues, rfl⟩))⟩
    | notAStringEnum hdistinct hvalues hnot =>
      exact .inr ⟨hdistinct, .inl (eventType_eq_error.mpr (.inr ⟨_, hvalues, hnot, rfl⟩))⟩
    | missingEventType hdistinct hvalues hrequired =>
      exact .inr ⟨hdistinct, .inr (.inl ⟨none, eventType_eq_ok.mpr (.inl ⟨hvalues, rfl⟩),
        requireEventType_eq_error.mpr ⟨rfl, hrequired, rfl⟩⟩)⟩
    | invalidValue hdistinct husable hvalues hbefore hnone =>
      have hliterals := literals_eq_error.mpr ⟨_, _, _, hvalues, hbefore, .inl ⟨hnone, rfl⟩⟩
      exact .inr ⟨hdistinct, .inr (.inr ⟨husable, .inl hliterals⟩)⟩
    | longValue hdistinct husable hvalues hbefore hlong =>
      have hliterals := literals_eq_error.mpr ⟨_, _, _, hvalues, hbefore, .inr ⟨hlong, rfl⟩⟩
      exact .inr ⟨hdistinct, .inr (.inr ⟨husable, .inl hliterals⟩)⟩
    | longId hdistinct husable hvalues hincluded hlong =>
      have hid := idText_eq_error.mpr ⟨hincluded, hlong, rfl⟩
      exact .inr ⟨hdistinct, .inr (.inr ⟨husable, .inr ⟨hvalues, .inl hid⟩⟩)⟩
    | marker hdistinct husable hvalues hshort hnone =>
      have hmarker := tagMarker_eq_error.mpr ⟨hnone, rfl⟩
      exact .inr ⟨hdistinct, .inr (.inr ⟨husable, .inr ⟨hvalues, .inr ⟨hshort, hmarker⟩⟩⟩)⟩

/-- What is found without conventions. -/
theorem toFunction_eq_error_of_noConventions {value : Json}
    (hnone : options.conventions = .error value) :
    event.toFunction options = .error e ↔
      (∃ x, FirstRepeats event.parameters x ∧
        e = .duplicateIdentifier (.parameters event.name) x) ∨
      DistinctParameters event.parameters ∧
        (event.values = [] ∧ options.requirePublishEvent = true ∧
            e = .missingEventType event.name ∨
          (event.values = [] → options.requirePublishEvent = false) ∧
            e = .unusable "conventions") := by
  rw [toFunction, hnone, bind_eq_error, Unique.exists_iff, checkParameters_eq_error,
    checkParameters_eq_ok_iff]
  refine or_congr_right (and_congr_right fun _ => ?_)
  cases hvalues : event.values with
  | cons v rest => simp [throw_eq_error, @eq_comm _ e]
  | nil =>
    have hunit : (∃ u, event.requireEventType options none = .ok u ∧
        (throw (.unusable "conventions") : Except BuildError EventFunction) = .error e) ↔
        options.requirePublishEvent = false ∧ e = .unusable "conventions" := by
      rw [Unique.exists_iff, throw_eq_error, @eq_comm _ e]
      exact and_congr_left fun _ => requireEventType_eq_ok.trans (forall_prop_of_true rfl)
    simp only [List.isEmpty_nil, if_true, bind_eq_error, hunit, requireEventType_eq_error, true_and,
      forall_const]

/-- What conventions refuse an event for, and what is found without them, is all there is. -/
theorem toFunction_fails : event.toFunction options = .error e ↔ event.Fails options e := by
  cases hc : options.conventions with
  | ok conventions =>
    rw [toFunction_eq_error hc]
    constructor
    · exact .refused hc
    · intro hfails
      cases hfails with
      | refused hc' hrefuses => exact Except.ok.inj (hc.symm.trans hc') ▸ hrefuses
      | repeatedParameter hc' | missingEventType hc' | noConventions hc' =>
        exact nomatch hc.symm.trans hc'
  | error value =>
    rw [toFunction_eq_error_of_noConventions hc]
    constructor
    · rintro (⟨x, hrepeats, rfl⟩ | ⟨hdistinct, ⟨hvalues, hrequired, rfl⟩ | ⟨hrequire, rfl⟩⟩)
      · exact .repeatedParameter hc hrepeats
      · exact .missingEventType hc hdistinct hvalues hrequired
      · exact .noConventions hc hdistinct hrequire
    · intro hfails
      cases hfails with
      | refused hc' => exact nomatch hc.symm.trans hc'
      | repeatedParameter _ hrepeats => exact .inl ⟨_, hrepeats, rfl⟩
      | missingEventType _ hdistinct hvalues hrequired =>
        exact .inr ⟨hdistinct, .inl ⟨hvalues, hrequired, rfl⟩⟩
      | noConventions _ hdistinct hrequire => exact .inr ⟨hdistinct, .inr ⟨hrequire, rfl⟩⟩

/-- **An event has no function for exactly the stated reasons**, the first of them that is there,
and where none is there it has one. -/
theorem toFunction_refuses_iff (event : Event) (options : Options) :
    (∀ e, event.toFunction options = .error e ↔ event.Fails options e) ∧
    ((∃ f, event.toFunction options = .ok f) ↔ ∀ e, ¬ event.Fails options e) := by
  refine ⟨fun e => toFunction_fails, ?_⟩
  simp only [← toFunction_fails]
  cases event.toFunction options <;> simp

/-- An event with everything wrong: parameters of one identifier, the event type set twice, and a
value without a payload. -/
def muddled : Event where
  id := 4
  name := "Open"
  values := [
    { parameter := { name := "event_type", type := .named "kind" }, stringEnum := some "opened" },
    { parameter := { name := "event_type", type := .named "kind" } }]
  parameters := [
    { name := "screen_id", type := .primitive .string },
    { name := "origin", type := .primitive .string },
    { name := "screenId", type := .primitive .integer }]

/-- The parameters are the first reason, and without them the event type is. -/
theorem toFunction_refuses_iff_muddled :
    muddled.toFunction {} = .error (.duplicateIdentifier (.parameters "Open") "screenId") ∧
    { muddled with parameters := [] }.toFunction {} =
      .error (.invalidEventType "Open" .repeated) := by
  constructor
  · refine ((toFunction_refuses_iff _ _).1 _).mpr (.refused rfl (.repeatedParameter ?_))
    have hid : parameterName "screenId" = "screenId" := by decide +kernel
    have hsplit : muddled.parameters =
        muddled.parameters.take 2 ++ [{ name := "screenId", type := .primitive .integer }] := rfl
    have hrepeats := FirstRepeats.identifier hsplit ⟨by decide +kernel, by decide +kernel⟩
      (by decide +kernel) (by decide +kernel)
    rwa [hid] at hrepeats
  · refine ((toFunction_refuses_iff _ _).1 _).mpr (.refused rfl (.repeatedEventType ?_ (by decide)))
    exact ⟨List.nodup_nil, List.nodup_nil⟩

/-- An event without values and parameters. -/
def bare (id : Int) : Event := { id, name := "Open" }

/-- No rule about parameters, event types and values refuses such an event. Still it has no function
when its id has too many digits, or when the marker of tags is no text. -/
theorem toFunction_fails_bare :
    let conventions : Conventions := { consumerTagMarker := .int 5 }
    let unmarked : Options := { conventions := .ok conventions }
    (∀ id, DistinctParameters (bare id).parameters ∧ (bare id).HasUsableType {} {} ∧
      (bare id).HasUsableType unmarked conventions ∧
      ∀ v ∈ (bare id).values, ∃ slot, v.HasOnly slot) ∧
    (bare longInteger).toFunction {} = .error .tooManyDigits ∧
    (bare 1).toFunction unmarked = .error (.unusable "consumer_tag_marker") := by
  have hdistinct : ∀ id, DistinctParameters (bare id).parameters :=
    fun id => ⟨List.nodup_nil, List.nodup_nil⟩
  refine ⟨fun id => ⟨hdistinct id, .unset rfl rfl, .unset rfl rfl, nofun⟩, ?_, by decide +kernel⟩
  have hlong := integerText?_eq_none.mp integerText?_longInteger
  exact (toFunction_eq_error rfl).mpr
    (.longId (hdistinct longInteger) (.unset rfl rfl) nofun rfl hlong)

end Event
end TrackingPlan
