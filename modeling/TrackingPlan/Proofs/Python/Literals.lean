import TrackingPlan.Proofs.Layout
import TrackingPlan.Proofs.Python.Layouts
import TrackingPlan.Proofs.Python.Outline
import TrackingPlan.Proofs.Text.Quoted

/-!
# Static values in Python code

The line of a static value stands inside the text of its record, which is indented as an argument
of its method and once more with the method.

Key definitions: `literalLines`.
Key theorems: `encloses_recordText`, `Method.Writes.sublist_print`, `Module.sublist_print`.
-/

namespace TrackingPlan
namespace Python

open Layout Steps

/-- The line of a static value under a key, without its indentation. -/
def literalLine (key text : String) : String :=
  stringLiteral key ++ ": " ++ stringLiteral text ++ ","

/-- The line of an entry that has a static value under a text. -/
def literalLine? (e : Entry) : Option String :=
  match e.key, e.value with
  | .str key, .literal text => some (literalLine key text)
  | _, _ => none

/-- The lines of the static values of a record, in order. -/
def literalLines (r : EventRecord) : List String := r.entries.filterMap literalLine?

theorem settled_literalLine (key text : String) : Settled (literalLine key text) where
  plain := by
    have hkey : '\n' ∉ (stringLiteral key).toList := Text.plain_quote key
    have htext : '\n' ∉ (stringLiteral text).toList := Text.plain_quote text
    simp [literalLine, hkey, htext]
  ending := ⟨_, ',', String.toList_append, by decide⟩

variable {style : Style} {f : EventFunction} {r : EventRecord} {names : List String}

theorem settled_of_mem_literalLines : ∀ l ∈ literalLines r, Settled l := by
  intro l h
  obtain ⟨e, -, he⟩ := List.mem_filterMap.mp h
  unfold literalLine? at he
  split at he
  · exact Option.some.inj he ▸ settled_literalLine _ _
  · exact nomatch he

theorem settled_of_mem_records : ∀ l ∈ f.records.flatMap literalLines, Settled l :=
  settled_flatMap (fun _ => settled_of_mem_literalLines) f.records

/-! ### Records -/

/-- The literal of the key of an entry in a method, and the text of its expression. -/
def Written (style : Style) (f : EventFunction) (e : Entry) (written : String × String) : Prop :=
  keyLiteral? e.key = some written.1 ∧ f.expressionText style e.value = some written.2

theorem entries?_recordOf {entries : List (String × String)} :
    (f.recordOf style r).entries? = some entries ↔
      List.Forall₂ (Written style f) r.entries entries := by
  rw [Record.entries?, mapM_eq_some, EventFunction.recordOf, List.forall₂_map_left_iff]
  have hwritten : (fun e written => (do
      return (← keyLiteral? e.key, ← f.expressionText style e.value)) = some written) =
        Written style f := by
    funext e written
    simp only [Written, Option.bind_eq_bind, Option.bind_eq_some_iff, Option.pure_def,
      Option.some.injEq, eq_iff_iff]
    constructor
    · rintro ⟨key, hkey, value, hvalue, rfl⟩
      exact ⟨hkey, hvalue⟩
    · rintro ⟨hkey, hvalue⟩
      exact ⟨_, hkey, _, hvalue, rfl⟩
  exact hwritten ▸ Iff.rfl

/-- The line of an entry in the text of its record. -/
theorem textLines_entry {e : Entry} {written : String × String} (hw : Written style f e written)
    {l : String} (h : literalLine? e = some l) :
    textLines ("        " ++ written.1 ++ ": " ++ written.2 ++ ",") = [blanks 8 ++ l] := by
  unfold literalLine? at h
  split at h
  · rename_i key text hkey hvalue
    obtain ⟨hk, hv⟩ := hw
    rw [hkey] at hk
    rw [hvalue] at hv
    have hline : "        " ++ written.1 ++ ": " ++ written.2 ++ "," =
        blanks 8 ++ literalLine key text := by
      rw [← Option.some.inj hk, ← Option.some.inj hv, literalLine, ← String.append_assoc,
        ← String.append_assoc, ← String.append_assoc]
      rfl
    rw [hline, ← Option.some.inj h]
    exact ((settled_literalLine key text).blanks_append 8).textLines_eq
  · exact nomatch h

/-- **The text of a record has the lines of its static values inside.** -/
theorem encloses_recordText {rawEventType name : String} {entries : List (String × String)}
    (h : List.Forall₂ (Written style f) r.entries entries) :
    Encloses (recordText rawEventType name entries) ((literalLines r).map (blanks 8 ++ ·)) := by
  rw [recordText]
  by_cases hentries : entries = []
  · have hlines : literalLines r = [] := by
      rw [hentries, List.forall₂_nil_right_iff] at h
      rw [literalLines, h, List.filterMap_nil]
    rw [if_pos (by simp [hentries]), hlines]
    exact encloses_block (List.cons_ne_nil _ _) (List.cons_ne_nil _ _) (List.cons_ne_nil _ _)
      (List.nil_sublist _)
  · rw [if_neg (by simpa using hentries), ← List.append_assoc, ← List.append_assoc,
      List.append_assoc _ ["    \x7d,"]]
    refine encloses_block (List.append_ne_nil_of_left_ne_nil (List.cons_ne_nil _ _) _)
      (by simpa using hentries) (List.cons_ne_nil _ _) ?_
    rw [literalLines, List.map_filterMap, List.filterMap_eq_flatMap_toList, List.flatMap_map]
    refine Pairing.sublist_flatMap h fun {e written} hw => ?_
    cases hline : literalLine? e with
    | none => exact List.nil_sublist _
    | some l =>
      rw [textLines_entry hw hline]
      exact List.Sublist.refl _

theorem encloses_print {text : String}
    (h : (f.recordOf style r).print style (.builtin names) = .ok text) :
    Encloses text ((literalLines r).map (blanks 8 ++ ·)) ∧
      ∀ x ∈ (literalLines r).map (blanks 8 ++ ·), Settled x := by
  obtain ⟨_, _, -, hentries, rfl⟩ := Record.print_eq_ok.mp h
  exact ⟨encloses_recordText (entries?_recordOf.mp hentries),
    settled_map_blanks settled_of_mem_literalLines 8⟩

/-! ### Methods -/

/-- The lines inside an argument stand in the text of the method. -/
theorem sublist_methodText (dualEventType : String) (m : Method) (defaults : List (String × String))
    {arguments rest : List (String × String)} {ls : List (List String)}
    (h : List.Forall₂ (fun l a => Encloses a.2 l ∧ ∀ x ∈ l, Settled x) ls arguments) :
    (ls.flatten.map (blanks 8 ++ ·)).Sublist
      (textLines (methodText dualEventType m defaults (arguments ++ rest))) := by
  have hline : ∀ {l : List String} {a : String × String},
      (Encloses a.2 l ∧ ∀ x ∈ l, Settled x) → (l.map (blanks 8 ++ ·)).Sublist
        (textLines ("        " ++ a.1 ++ "=" ++ hang 8 a.2 ++ ",")) :=
    fun h => ((h.1.hang h.2 8).append _ _).sublist
  have harguments := Pairing.sublist_flatMap h hline
  rw [methodText, textLines_block (by simp), List.map_flatten, ← List.flatMap_def]
  refine harguments.trans ?_
  have hmap : (arguments.flatMap fun a =>
      textLines ("        " ++ a.1 ++ "=" ++ hang 8 a.2 ++ ",")) =
        (arguments.map fun a =>
          "        " ++ a.1 ++ "=" ++ hang 8 a.2 ++ ",").flatMap textLines := by
    rw [List.flatMap_map]
  rw [hmap, List.map_append]
  refine List.Sublist.flatMap ?_ _
  refine .trans ?_ (List.sublist_append_left _ _)
  refine .trans ?_ (List.sublist_append_right _ _)
  exact List.sublist_append_left _ _

/-- **The text of a method has the lines of the static values of its function.** -/
theorem Method.Writes.sublist_print {m : Method} (h : m.Writes style f) {text : String}
    (htext : m.print style (.builtin names) = .ok text) :
    ((f.records.flatMap literalLines).map (blanks 16 ++ ·)).Sublist (textLines text) := by
  obtain ⟨defaults, business, publish, shown, dual, arguments, -, hbusiness, hpublish, -, -,
    harguments, rfl⟩ := Method.print_eq_ok.mp htext
  rw [h.business] at hbusiness
  rw [h.publish] at hpublish
  obtain ⟨first, rest, rfl, hfirst⟩ := Json.exists_append_of_displayNames? harguments
  have hrecords : List.Forall₂ (fun l a => Encloses a.2 l ∧ ∀ x ∈ l, Settled x)
      (f.records.map fun r => (literalLines r).map (blanks 8 ++ ·))
      ([(style.businessArgument, business)] ++
        (publish.map fun text => (style.publishArgument, text)).toList) := by
    rw [List.forall₂_map_left_iff]
    exact (EventFunction.records_printed _ _ hbusiness hpublish).imp fun _ _ => encloses_print
  rw [← map_blanks_flatten literalLines 8 8]
  refine sublist_methodText dual m shown (Pairing.trans hrecords hfirst ?_)
  exact fun hl heq => heq ▸ hl

/-! ### Modules -/

/-- **The text of a module has the lines of the static values of its functions.** -/
theorem Module.sublist_print {m : Module} {fs : List EventFunction}
    (hm : List.Forall₂ (fun f (method : Method) => method.Writes style f) fs m.methods)
    {code : String} (hcode : m.print style (.builtin names) = .ok code) :
    (fs.flatMap fun f => (f.records.flatMap literalLines).map (blanks 20 ++ ·)).Sublist
      (textLines code) := by
  obtain ⟨methods, imports, runtime, object, importNames, version, hmethods, -, -, -, -, -, rfl⟩ :=
    Module.print_eq_ok.mp hcode
  have htexts : List.Forall₂ (fun (f : EventFunction) text =>
      ((f.records.flatMap literalLines).map (blanks 16 ++ ·)).Sublist (textLines text))
      fs methods :=
    Pairing.trans hm (mapM_eq_ok.mp hmethods) fun hw hprint => hw.sublist_print hprint
  have hindented : (fs.flatMap fun f =>
      (f.records.flatMap literalLines).map (blanks 20 ++ ·)).Sublist
        (methods.flatMap fun text => textLines (indent 4 text)) :=
    Pairing.sublist_flatMap htexts fun {f text} h => by
      have hindent := sublist_indent h (settled_map_blanks settled_of_mem_records 16) 4
      simpa only [List.map_map, Function.comp_def, blanks_append_blanks] using hindent
  refine hindented.trans ?_
  rw [moduleText, textLines_block (by simp)]
  by_cases hne : methods = []
  · rw [hne]
    exact List.nil_sublist _
  · rw [bodyLines_eq hne]
    refine (sublist_spaced 4 methods).trans (List.Sublist.flatMap ?_ _)
    refine .trans ?_ (List.sublist_append_left _ _)
    refine .trans ?_ (List.sublist_append_left _ _)
    exact List.sublist_append_right _ _

end Python
end TrackingPlan
