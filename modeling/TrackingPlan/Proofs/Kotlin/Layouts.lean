import TrackingPlan.Kotlin.Printer
import TrackingPlan.Proofs.Json.Written

/-!
# The layouts of Kotlin files

Without stored templates a part of a file is written in its own layout, and it has a text when all
that is shown in it has one.

Key theorems: `Record.print_eq_ok`, `Function.print_eq_ok`, `File.print_eq_ok`.
-/

namespace TrackingPlan
namespace Kotlin

open Steps

variable {style : Style} {names : List String} {text : String}

/-- The text of a record shows its name and its entries. -/
theorem Record.print_eq_ok {r : Record} : r.print style (.builtin names) = .ok text ↔
    r.entries.any (·.2.isNone) = false ∧
    ∃ rawEventType entries, style.rawEventType.display? = some rawEventType ∧
      r.entries? = some entries ∧ recordText rawEventType r.name entries = text := by
  unfold Record.print
  cases r.entries.any (·.2.isNone) with
  | true => simp
  | false =>
    simp only [Bool.false_eq_true, if_false, true_and, fragment_eq_ok, text?,
      Option.bind_eq_bind, Option.bind_eq_some_iff, Option.pure_def, Option.some.injEq]
    constructor
    · rintro ⟨raw, hraw, entries, hentries, htext⟩
      exact ⟨raw, entries, hraw, hentries, htext⟩
    · rintro ⟨raw, entries, hraw, hentries, htext⟩
      exact ⟨raw, hraw, entries, hentries, htext⟩

/-- The text of a function shows those of its records and its parameters. -/
theorem Function.print_eq_ok {f : Function} : f.print style (.builtin names) = .ok text ↔
    ∃ business publish parameters dualEventType arguments,
      f.business.print style (.builtin names) = .ok business ∧
      f.publish.mapM (·.print style (.builtin names)) = .ok publish ∧
      f.parameters.mapM (·.print style) = .ok parameters ∧
      style.dualEventType.display? = some dualEventType ∧
      Json.displayNames? (f.arguments style business publish) = some arguments ∧
      functionText dualEventType f parameters arguments = text := by
  simp only [Function.print, bind_eq_ok, fragment_eq_ok, text?, Option.bind_eq_bind,
    Option.bind_eq_some_iff, Option.pure_def, Option.some.injEq]
  constructor
  · rintro ⟨business, hbusiness, publish, hpublish, parameters, hparameters, dual, hdual,
      arguments, harguments, htext⟩
    exact ⟨business, publish, parameters, dual, arguments, hbusiness, hpublish, hparameters, hdual,
      harguments, htext⟩
  · rintro ⟨business, publish, parameters, dual, arguments, hbusiness, hpublish, hparameters, hdual,
      harguments, htext⟩
    exact ⟨business, hbusiness, publish, hpublish, parameters, hparameters, dual, hdual,
      arguments, harguments, htext⟩

/-- The text of a file shows those of its functions and enumerations. -/
theorem File.print_eq_ok {f : File} : f.print style (.builtin names) = .ok text ↔
    ∃ functions enums packageName objectName versionLines,
      f.functions.mapM (·.print style (.builtin names)) = .ok functions ∧
      f.enums.mapM (·.print (.builtin names)) = .ok enums ∧
      f.packageName.display? = some packageName ∧
      f.objectName.bind (·.display?) = some objectName ∧
      f.versionLines? style = some versionLines ∧
      fileText f packageName objectName versionLines functions enums = text := by
  have hfill (layout : Option String) :
      (((TemplateSet.builtin names).fill "file.kt.j2" layout).mapError GenerationError.template =
        .ok text) ↔ layout = some text := fragment_eq_ok "file.kt.j2"
  simp only [File.print, bind_eq_ok]
  cases f.objectName with
  | none => simp
  | some name =>
    simp only [hfill, text?, Option.bind_eq_bind, Option.bind_eq_some_iff, Option.pure_def,
      Option.some.injEq, exists_eq_left']
    constructor
    · rintro ⟨functions, hfunctions, enums, henums, package, hpackage, object, hobject, version,
        hversion, htext⟩
      exact ⟨functions, enums, package, object, version, hfunctions, henums, hpackage, hobject,
        hversion, htext⟩
    · rintro ⟨functions, enums, package, object, version, hfunctions, henums, hpackage, hobject,
        hversion, htext⟩
      exact ⟨functions, hfunctions, enums, henums, package, hpackage, object, hobject, version,
        hversion, htext⟩

end Kotlin
end TrackingPlan
