import TrackingPlan.Proofs.Json.Written
import TrackingPlan.Python.Printer

/-!
# The layouts of Python modules

Without stored templates a part of a module is written in its own layout, and it has a text when
all that is shown in it has one.

Key theorems: `Record.print_eq_ok`, `Method.print_eq_ok`, `Module.print_eq_ok`.
-/

namespace TrackingPlan
namespace Python

open Layout Steps

variable {style : Style} {names : List String} {text : String}

/-- The text of a record shows its name and its entries. -/
theorem Record.print_eq_ok {r : Record} : r.print style (.builtin names) = .ok text ↔
    ∃ rawEventType entries, style.rawEventType.display? = some rawEventType ∧
      r.entries? = some entries ∧ recordText rawEventType r.name entries = text := by
  simp only [print, fragment_eq_ok, text?, Option.bind_eq_bind, Option.bind_eq_some_iff,
    Option.pure_def, Option.some.injEq]
  constructor
  · rintro ⟨raw, hraw, entries, hentries, htext⟩
    exact ⟨raw, entries, hraw, hentries, htext⟩
  · rintro ⟨raw, entries, hraw, hentries, htext⟩
    exact ⟨raw, hraw, entries, hentries, htext⟩

/-- The text of a method shows the expressions of its defaults and the texts of its records. -/
theorem Method.print_eq_ok {m : Method} : m.print style (.builtin names) = .ok text ↔
    ∃ defaults business publish shown dualEventType arguments,
      m.guards.mapM (·.resolve style) = .ok defaults ∧
      m.business.print style (.builtin names) = .ok business ∧
      m.publish.mapM (·.print style (.builtin names)) = .ok publish ∧
      defaults.mapM (fun (name, e) => return (name, ← e.display?)) = some shown ∧
      style.dualEventType.display? = some dualEventType ∧
      Json.displayNames? (m.arguments style business publish) = some arguments ∧
      methodText dualEventType m shown arguments = text := by
  simp only [print, bind_eq_ok, fragment_eq_ok, text?, Option.bind_eq_bind,
    Option.bind_eq_some_iff, Option.pure_def, Option.some.injEq]
  constructor
  · rintro ⟨defaults, hdefaults, business, hbusiness, publish, hpublish, shown, hshown, dual, hdual,
      arguments, harguments, htext⟩
    exact ⟨defaults, business, publish, shown, dual, arguments, hdefaults, hbusiness, hpublish,
      hshown, hdual, harguments, htext⟩
  · rintro ⟨defaults, business, publish, shown, dual, arguments, hdefaults, hbusiness, hpublish,
      hshown, hdual, harguments, htext⟩
    exact ⟨defaults, hdefaults, business, hbusiness, publish, hpublish, shown, hshown, dual, hdual,
      arguments, harguments, htext⟩

theorem Module.enums_printed (m : Module) :
    (m.enums.mapM fun e => fragment (.builtin names) "enum.py.j2" (enumText e)) =
      .ok (m.enums.map enumText) := by
  rw [mapM_eq_ok, List.forall₂_map_right_iff, List.forall₂_same]
  exact fun e _ => rfl

/-- The text of a module shows those of its methods, and its enumerations. -/
theorem Module.print_eq_ok {m : Module} : m.print style (.builtin names) = .ok text ↔
    ∃ methods imports runtimeModule objectName importNames versionLines,
      m.methods.mapM (·.print style (.builtin names)) = .ok methods ∧
      style.runtimeImports m.usesContext = .ok imports ∧
      style.runtimeModule.display? = some runtimeModule ∧
      m.objectName.display? = some objectName ∧
      imports.mapM (·.display?) = some importNames ∧
      m.versionLines? style = some versionLines ∧
      moduleText m runtimeModule objectName importNames versionLines methods
        (m.enums.map enumText) = text := by
  have hfill (layout : Option String) :
      (((TemplateSet.builtin names).fill "module.py.j2" layout).mapError GenerationError.template =
        .ok text) ↔ layout = some text := fragment_eq_ok "module.py.j2"
  simp only [print, m.enums_printed, bind_eq_ok, Except.ok.injEq, exists_eq_left', hfill, text?,
    Option.bind_eq_bind, Option.bind_eq_some_iff, Option.pure_def, Option.some.injEq]
  constructor
  · rintro ⟨methods, hmethods, imports, himports, runtime, hruntime, object, hobject, importNames,
      hnames, version, hversion, htext⟩
    exact ⟨methods, imports, runtime, object, importNames, version, hmethods, himports, hruntime,
      hobject, hnames, hversion, htext⟩
  · rintro ⟨methods, imports, runtime, object, importNames, version, hmethods, himports, hruntime,
      hobject, hnames, hversion, htext⟩
    exact ⟨methods, hmethods, imports, himports, runtime, hruntime, object, hobject, importNames,
      hnames, version, hversion, htext⟩

/-- The methods of the event class stand in its body, if there are any. -/
theorem bodyLines_eq {texts : List String} (h : texts ≠ []) :
    bodyLines texts = (texts.map (indent 4)).intersperse "" := by
  fun_induction bodyLines texts with
  | case1 => exact absurd rfl h
  | case2 => rfl
  | case3 text rest hrest ih =>
    obtain ⟨next, rest, rfl⟩ := List.exists_cons_of_ne_nil hrest
    rw [ih hrest]
    rfl

end Python
end TrackingPlan
