import TrackingPlan.Proofs.Kotlin.Layouts
import TrackingPlan.Proofs.Layout
import TrackingPlan.Proofs.Pairing
import TrackingPlan.Proofs.Source.Function

/-!
# Static values in Kotlin code

The line of a static value stands inside the text of its record, which is indented as an argument
of its function and once more with the function. It ends in a comma unless the entry is the last
one of the record.

Key definitions: `literalLines`.
Key theorems: `encloses_recordText`, `Function.sublist_print`, `File.sublist_print`.
-/

namespace TrackingPlan
namespace Kotlin

open Layout Steps

/-- The line of an entry that has a static value under a text, without indentation and comma. -/
def literalLine? (e : Entry) : Option String :=
  match e.key, e.value with
  | .str key, .literal text => some (stringLiteral key ++ " to " ++ stringLiteral text)
  | _, _ => none

/-- The lines of the static values among entries, in order. -/
def literalLines : List Entry → List String
  | [] => []
  | [last] => (literalLine? last).toList
  | e :: rest => ((literalLine? e).map (· ++ ",")).toList ++ literalLines rest

theorem plain_escapeChar (c : Char) : '\n' ∉ escapeChar c := by
  unfold escapeChar
  split
  case h_7 hne _ _ =>
    rw [List.mem_singleton]
    exact fun h => hne h.symm
  all_goals decide

theorem plain_stringLiteral (s : String) : '\n' ∉ (stringLiteral s).toList := by
  rw [stringLiteral, String.toList_ofList, List.cons_append, List.mem_cons, List.mem_append,
    List.mem_flatMap]
  rintro (h | ⟨c, -, hc⟩ | h)
  · exact absurd h (by decide)
  · exact plain_escapeChar c hc
  · exact absurd h (by decide)

variable {options : Options} {style : Style} {f : EventFunction} {names : List String}

/-- The line of a static value is settled, with and without a comma. -/
theorem settled_literalLine {e : Entry} {l : String} (h : literalLine? e = some l) :
    Settled l ∧ Settled (l ++ ",") := by
  unfold literalLine? at h
  split at h
  · rename_i key text _ _
    obtain rfl := Option.some.inj h
    have hkey : '\n' ∉ (stringLiteral key).toList := plain_stringLiteral key
    have htext : '\n' ∉ (stringLiteral text).toList := plain_stringLiteral text
    refine ⟨⟨by simp [hkey, htext], (stringLiteral key ++ " to ").toList ++
      '"' :: text.toList.flatMap escapeChar, '"', ?_, by decide⟩, ⟨by simp [hkey, htext], _, ',',
      String.toList_append, by decide⟩⟩
    rw [String.toList_append, stringLiteral, stringLiteral, String.toList_ofList,
      List.append_assoc]
  · exact nomatch h

theorem settled_of_mem_literalLines : ∀ {es : List Entry}, ∀ l ∈ literalLines es, Settled l
  | [], l, h => absurd h List.not_mem_nil
  | [e], l, h => (settled_literalLine (Option.mem_toList.mp h)).1
  | e :: e' :: rest, l, h => by
    rcases List.mem_append.mp h with h | h
    · obtain ⟨l', hl', rfl⟩ := Option.map_eq_some_iff.mp (Option.mem_toList.mp h)
      exact (settled_literalLine hl').2
    · exact settled_of_mem_literalLines l h

theorem settled_of_mem_records :
    ∀ l ∈ f.records.flatMap fun r => literalLines r.entries, Settled l :=
  settled_flatMap (fun _ => settled_of_mem_literalLines) f.records

/-! ### Records -/

/-- The literal of the key of an entry, and the text of its expression. -/
def Written (options : Options) (style : Style) (e : Entry) (written : String × String) : Prop :=
  keyLiteral? e.key = some written.1 ∧
    (expressionOf options style e.value).bind (·.display?) = some written.2

theorem Record.entries?_eq_some {r : EventRecord} {entries : List (String × String)} :
    (Record.of options style r).entries? = some entries ↔
      List.Forall₂ (Written options style) r.entries entries := by
  rw [Record.entries?, mapM_eq_some, Record.of, List.forall₂_map_left_iff]
  have hwritten : (fun e written => (do
      return (← keyLiteral? e.key, ← (← expressionOf options style e.value).display?)) =
        some written) = Written options style := by
    funext e written
    simp only [Written, Option.bind_eq_bind, Option.bind_eq_some_iff, Option.pure_def,
      Option.some.injEq, eq_iff_iff]
    constructor
    · rintro ⟨key, hkey, value, hvalue, shown, hshown, rfl⟩
      exact ⟨hkey, value, hvalue, hshown⟩
    · rintro ⟨hkey, value, hvalue, hshown⟩
      exact ⟨_, hkey, value, hvalue, _, hshown, rfl⟩
  exact hwritten ▸ Iff.rfl

/-- The text of a record, when no template is stored, shows what is written for each entry. -/
theorem Record.exists_written {r : EventRecord} {text : String}
    (h : (Record.of options style r).print style (.builtin names) = .ok text) :
    ∃ rawEventType entries, List.Forall₂ (Written options style) r.entries entries ∧
      text = recordText rawEventType (stringLiteral r.name) entries := by
  obtain ⟨-, rawEventType, entries, -, hentries, rfl⟩ := print_eq_ok.mp h
  exact ⟨rawEventType, entries, entries?_eq_some.mp hentries, rfl⟩

/-- The line of an entry in the text of its record. -/
theorem line_eq {e : Entry} {written : String × String} (hw : Written options style e written)
    {l : String} (h : literalLine? e = some l) :
    "        " ++ written.1 ++ " to " ++ written.2 = blanks 8 ++ l := by
  unfold literalLine? at h
  split at h
  · rename_i key text hkey hvalue
    obtain ⟨hk, hv⟩ := hw
    rw [hkey] at hk
    rw [hvalue] at hv
    rw [← Option.some.inj hk, ← Option.some.inj hv, ← Option.some.inj h, String.append_assoc,
      String.append_assoc, String.append_assoc]
    rfl
  · exact nomatch h

theorem sublist_entry (after : String) {e : Entry} {written : String × String} {line : String}
    (hw : Written options style e written)
    (hline : line = "        " ++ written.1 ++ " to " ++ written.2 ++ after)
    (hs : ∀ l, literalLine? e = some l → Settled (l ++ after)) :
    (((literalLine? e).map (· ++ after)).toList.map (blanks 8 ++ ·)).Sublist (textLines line) := by
  cases he : literalLine? e with
  | none => exact List.nil_sublist _
  | some l =>
    rw [hline, line_eq hw he, String.append_assoc, ((hs l he).blanks_append 8).textLines_eq]
    exact List.Sublist.refl _

theorem withCommas_ne_nil : ∀ {items : List String}, items ≠ [] → withCommas items ≠ []
  | [_], _ => List.cons_ne_nil _ _
  | _ :: _ :: _, _ => List.cons_ne_nil _ _

theorem sublist_withCommas : ∀ {es : List Entry} {entries : List (String × String)},
    List.Forall₂ (Written options style) es entries →
      ((literalLines es).map (blanks 8 ++ ·)).Sublist
        ((withCommas (entries.map fun written =>
          "        " ++ written.1 ++ " to " ++ written.2)).flatMap textLines)
  | [], _, .nil => List.Sublist.refl _
  | [e], [written], .cons hw .nil => by
    have hentry := sublist_entry "" hw rfl fun l hl => by
      rw [String.append_empty]
      exact (settled_literalLine hl).1
    simpa [literalLines, withCommas] using hentry
  | e :: e' :: es, written :: written' :: entries, .cons hw hrest => by
    have ih := sublist_withCommas hrest
    have hentry := sublist_entry "," hw rfl fun l hl => (settled_literalLine hl).2
    rw [literalLines, List.map_append]
    · exact hentry.append ih
    · exact List.cons_ne_nil _ _

/-- **The text of a record has the lines of its static values inside.** -/
theorem encloses_recordText {rawEventType name : String} {es : List Entry}
    {entries : List (String × String)} (h : List.Forall₂ (Written options style) es entries) :
    Encloses (recordText rawEventType name entries) ((literalLines es).map (blanks 8 ++ ·)) := by
  rw [recordText]
  by_cases hentries : entries = []
  · obtain rfl : es = [] := by
      subst hentries
      cases h
      rfl
    rw [if_pos (by simp [hentries])]
    exact encloses_block (List.cons_ne_nil _ _) (List.cons_ne_nil _ _) (List.cons_ne_nil _ _)
      (List.nil_sublist _)
  · rw [if_neg (by simpa using hentries), ← List.append_assoc, ← List.append_assoc,
      List.append_assoc _ ["    )"]]
    refine encloses_block (List.append_ne_nil_of_left_ne_nil (List.cons_ne_nil _ _) _)
      (withCommas_ne_nil (by simpa using hentries)) (List.cons_ne_nil _ _) (sublist_withCommas h)

theorem encloses_print {r : EventRecord} {text : String}
    (h : (Record.of options style r).print style (.builtin names) = .ok text) :
    Encloses text ((literalLines r.entries).map (blanks 8 ++ ·)) ∧
      ∀ x ∈ (literalLines r.entries).map (blanks 8 ++ ·), Settled x := by
  obtain ⟨_, entries, hentries, rfl⟩ := Record.exists_written h
  exact ⟨encloses_recordText hentries, settled_map_blanks settled_of_mem_literalLines 8⟩

/-! ### Functions -/

/-- The first item of a list stands for itself or with a comma. -/
theorem withCommas_cons (item : String) (rest : List String) :
    ∃ after, withCommas (item :: rest) = (item ++ after) :: withCommas rest := by
  cases rest with
  | nil => exact ⟨"", by rw [String.append_empty]; rfl⟩
  | cons _ _ => exact ⟨",", rfl⟩

/-- The lines inside each item of a list are there when commas are put after the items. -/
theorem sublist_items {ls : List (List String)} {items : List String}
    (h : List.Forall₂ (fun l item => Encloses item l) ls items) (rest : List String) :
    ls.flatten.Sublist ((withCommas (items ++ rest)).flatMap textLines) := by
  induction h with
  | nil => exact List.nil_sublist _
  | @cons l item ls items henclosed _ ih =>
    obtain ⟨after, hitem⟩ := withCommas_cons item (items ++ rest)
    have hfirst : Encloses (item ++ after) l := by
      have happend := henclosed.append "" after
      rwa [String.empty_append] at happend
    rw [List.cons_append, hitem, List.flatMap_cons, List.flatten_cons]
    exact hfirst.sublist.append ih

/-- The lines inside an argument stand in the text of the function. -/
theorem sublist_functionText (dualEventType : String) (k : Function) (parameters : List String)
    {arguments rest : List (String × String)} {ls : List (List String)}
    (h : List.Forall₂ (fun l a => Encloses a.2 l ∧ ∀ x ∈ l, Settled x) ls arguments) :
    (ls.flatten.map (blanks 4 ++ ·)).Sublist
      (textLines (functionText dualEventType k parameters (arguments ++ rest))) := by
  have hitems : List.Forall₂ (fun l item => Encloses item l) (ls.map (·.map (blanks 4 ++ ·)))
      (arguments.map fun a => "    " ++ a.1 ++ " = " ++ hang 4 a.2) := by
    rw [List.forall₂_map_left_iff, List.forall₂_map_right_iff]
    refine h.imp fun l a ha => ?_
    have happend := (ha.1.hang ha.2 4).append ("    " ++ a.1 ++ " = ") ""
    rwa [String.append_empty] at happend
  rw [functionText, textLines_block (by simp), List.map_flatten, List.map_append]
  refine .trans (sublist_items hitems (rest.map fun a => "    " ++ a.1 ++ " = " ++ hang 4 a.2)) ?_
  refine List.Sublist.flatMap ?_ _
  refine .trans ?_ (List.sublist_append_left _ _)
  exact List.sublist_append_right _ _

/-- **The text of a function has the lines of its static values.** -/
theorem Function.sublist_print {text : String}
    (htext : (Function.of options style f).print style (.builtin names) = .ok text) :
    ((f.records.flatMap fun r => literalLines r.entries).map (blanks 12 ++ ·)).Sublist
      (textLines text) := by
  obtain ⟨business, publish, parameters, dual, arguments, hbusiness, hpublish, -, -, harguments,
    rfl⟩ := print_eq_ok.mp htext
  obtain ⟨first, rest, rfl, hfirst⟩ := Json.exists_append_of_displayNames? harguments
  have hrecords : List.Forall₂ (fun l a => Encloses a.2 l ∧ ∀ x ∈ l, Settled x)
      (f.records.map fun r => (literalLines r.entries).map (blanks 8 ++ ·))
      ([(style.businessArgument, business)] ++
        (publish.map fun text => (style.publishArgument, text)).toList) := by
    rw [List.forall₂_map_left_iff]
    exact (EventFunction.records_printed _ _ hbusiness hpublish).imp fun _ _ => encloses_print
  rw [← map_blanks_flatten (fun r : EventRecord => literalLines r.entries) 4 8]
  refine sublist_functionText dual _ parameters (Pairing.trans hrecords hfirst ?_)
  exact fun hl heq => heq ▸ hl

/-! ### Files -/

theorem bodyLines_eq (texts : List String) :
    bodyLines texts = (texts.map (indent 4)).intersperse "" := by
  fun_induction bodyLines texts with
  | case1 => rfl
  | case2 => rfl
  | case3 text rest hrest ih =>
    obtain ⟨next, rest, rfl⟩ := List.exists_cons_of_ne_nil hrest
    rw [ih]
    rfl

/-- **The text of a file has the lines of the static values of its functions.** -/
theorem File.sublist_print {source : SourceFile} {code : String}
    (hcode : (File.ofSource options style source).print style (.builtin names) = .ok code) :
    (source.functions.flatMap fun f =>
      (f.records.flatMap fun r => literalLines r.entries).map (blanks 16 ++ ·)).Sublist
        (textLines code) := by
  obtain ⟨functions, enums, package, object, version, hfunctions, -, -, -, -, rfl⟩ :=
    File.print_eq_ok.mp hcode
  rw [mapM_eq_ok, File.ofSource, List.forall₂_map_left_iff] at hfunctions
  have hindented : (source.functions.flatMap fun f =>
      (f.records.flatMap fun r => literalLines r.entries).map (blanks 16 ++ ·)).Sublist
        (functions.flatMap fun text => textLines (indent 4 text)) :=
    Pairing.sublist_flatMap hfunctions fun {f text} h => by
      have hindent := sublist_indent (Function.sublist_print h)
        (settled_map_blanks settled_of_mem_records 12) 4
      simpa only [List.map_map, Function.comp_def, blanks_append_blanks] using hindent
  rw [fileText, textLines_block (by simp), bodyLines_eq]
  refine (hindented.trans (sublist_spaced 4 functions)).trans (List.Sublist.flatMap ?_ _)
  refine .trans ?_ (List.sublist_append_left _ _)
  refine .trans ?_ (List.sublist_append_left _ _)
  refine .trans ?_ (List.sublist_append_left _ _)
  exact List.sublist_append_right _ _

end Kotlin
end TrackingPlan
