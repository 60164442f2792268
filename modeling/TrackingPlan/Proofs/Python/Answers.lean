import TrackingPlan.Proofs.Naming.Finished
import TrackingPlan.Proofs.Python.Scopes

/-!
# The names that Python code gets

A scope with the words of the language gives names that the language takes: words of ASCII letters,
digits and underscores, none of which is a keyword or a builtin that the code relies on, and in
snake case without capitals. It does so whatever it is asked for, in whatever order, and whatever
names are taken elsewhere. In an empty scope the parameter of a snake-case name has this name
again, so that callers find their parameters under the names of the schema; and a name that an empty
scope gave is given again when it is asked for itself.

The invariant is `Trusted`: all answers that the scope remembers are such names.

Key definitions: `Trusted`.
Key theorems: `Trusted.serve`, `history_usable`, `sanitize_emptyScope`,
`sanitize_parameterName`, `sanitize_settles`.
-/

namespace TrackingPlan
namespace Python

open Naming Scope

variable {s : Scope} {form : LetterCase} {name answer : String}

/-! ### Every answer -/

/-- A scope with the words of the language that remembers only safe words. -/
structure Trusted (s : Scope) : Prop where
  worded : Worded s
  isWord : ∀ {form name answer}, s.Knows form name answer → IsWord answer.toList
  safe : s.AllSafe

theorem trusted_of_no_answers (hs : Worded s) (h : s.answers = []) : Trusted s where
  worded := hs
  isWord {_ _ answer} hknows := by
    rw [Knows, h, Assoc.get?_nil] at hknows
    exact absurd hknows.symm (Option.some_ne_none answer)
  safe := AllSafe.of_no_answers h

theorem Trusted.reserve (h : Trusted s) (name : String) : Trusted (s.reserve name) where
  worded := h.worded
  isWord hknows := h.isWord hknows
  safe hknows := by
    obtain ⟨hkeyword, hbuiltin, hlower⟩ := h.safe hknows
    exact ⟨hkeyword, hbuiltin, hlower⟩

theorem Trusted.sanitize (h : Trusted s) (name : String) (form : LetterCase) :
    Trusted (s.sanitize name form).2 where
  worded := h.worded.serve (.sanitize name form)
  safe := AllSafe.sanitize h.worded.plainWords h.safe name form
  isWord {form' name' answer} hknows := by
    rcases s.sanitize_cases name form "_" with ⟨_, -, heq⟩ | ⟨new, -, hnew, -, heq⟩
    · rw [heq] at hknows
      exact h.isWord hknows
    · rw [heq, Knows, record, Assoc.get?_set] at hknows
      by_cases hkey : requestKey name' form' "_" = requestKey name form "_"
      · rw [if_pos hkey, Option.some.injEq] at hknows
        rw [← hknows, hnew]
        exact s.isWord_resolve name form
      · rw [if_neg hkey] at hknows
        exact h.isWord hknows

/-- **A scope stays trusted**, whatever it is asked for. -/
theorem Trusted.serve (h : Trusted s) : ∀ r : Request, Trusted (s.serve r).2
  | .sanitize name form => h.sanitize name form
  | .reserve name => h.reserve name
  | .clear => trusted_of_no_answers h.worded rfl

/-- What a trusted scope answers is a safe word. -/
theorem Trusted.answered (h : Trusted s) {r : Request}
    (hserve : (s.serve r).1 = .answered name form answer) :
    IsWord answer.toList ∧ emptyScope.Safe form answer := by
  cases r with
  | reserve _ => exact nomatch hserve
  | clear => exact nomatch hserve
  | sanitize name' form' =>
    obtain ⟨rfl, rfl, rfl⟩ := Turn.answered.inj hserve
    have hafter := h.sanitize name' form'
    have hknows := knows_sanitize s form' name'
    obtain ⟨hkeyword, hbuiltin, hlower⟩ := hafter.safe hknows
    rw [hafter.worded.1] at hkeyword
    rw [hafter.worded.2] at hbuiltin
    exact ⟨hafter.isWord hknows, hkeyword, hbuiltin, hlower⟩

theorem Trusted.history (requests : List Request) : ∀ {s : Scope}, Trusted s →
    .answered name form answer ∈ s.history requests →
      IsWord answer.toList ∧ emptyScope.Safe form answer := by
  induction requests with
  | nil => exact fun _ hturn => absurd hturn List.not_mem_nil
  | cons r rest ih =>
    intro s h hturn
    rcases List.mem_cons.mp hturn with hfirst | hlater
    · exact h.answered hfirst.symm
    · exact ih (h.serve r) hlater

/-- **Every name that a scope for Python gives is usable**: a word, no keyword, no builtin that the
code relies on, and in snake case without a capital. -/
theorem history_usable {requests : List Request}
    (h : .answered name form answer ∈ emptyScope.history requests) :
    IsWord answer.toList ∧ answer ∉ keywords ∧ answer ∉ builtins ∧
      (form = .snake → ∀ c ∈ answer.toList, ¬ c.isUpper) := by
  obtain ⟨hword, hsafe⟩ := (trusted_of_no_answers ⟨rfl, rfl⟩ rfl).history requests h
  refine ⟨hword, hsafe.notKeyword, hsafe.notBuiltin, fun hform c hc => ?_⟩
  exact Bool.eq_false_iff.mp (hsafe.isLower hform c hc)

/-- The names meet each other and names that are taken, become a keyword by their case, start with
a digit, or have no character of a word at all. -/
theorem history_usable_awkward :
    let requests := [.reserve "class_", .sanitize "Class" .snake, .sanitize "class" .preserve,
      .sanitize "3D-View" .snake, .sanitize "ßé" .preserve]
    .answered "Class" .snake "class__1" ∈ emptyScope.history requests ∧
      .answered "3D-View" .snake "_3_d_view" ∈ emptyScope.history requests ∧
      IsWord "class__1".toList ∧ IsWord "_3_d_view".toList ∧
      "class__1" ∉ keywords ∧ "class__1" ∉ builtins ∧
      ∀ c ∈ "_3_d_view".toList, ¬ c.isUpper := by
  intro requests
  have hclass : .answered "Class" .snake "class__1" ∈ emptyScope.history requests := by
    decide +kernel
  have hview : .answered "3D-View" .snake "_3_d_view" ∈ emptyScope.history requests := by
    decide +kernel
  obtain ⟨hword, hkeyword, hbuiltin, -⟩ := history_usable hclass
  obtain ⟨hword', -, -, hlower⟩ := history_usable hview
  exact ⟨hclass, hview, hword, hword', hkeyword, hbuiltin, hlower rfl⟩

/-! ### An empty scope -/

/-- The first name that an empty scope gives: only a word of the language gets a suffix. -/
theorem sanitize_emptyScope (name : String) (form : LetterCase) :
    (emptyScope.sanitize name form).1 =
      if safeForm name form ∈ keywords ∨ safeForm name form ∈ builtins then
        safeForm name form ++ "_"
      else safeForm name form :=
  emptyScope.sanitize_clear name form "_"

/-- **A parameter with a snake-case name has this name in Python too**, with a suffix where it is a
word of the language: in a scope that was cleared, whatever it was asked for before. -/
theorem sanitize_parameterName (hname : IsSnake name) (requests : List Request) :
    ((emptyScope.serveAll requests).clear.sanitize (parameterName name) .snake).1 =
      if name ∈ keywords ∨ name ∈ builtins then name ++ "_" else name := by
  have hworded : Worded (emptyScope.serveAll requests) :=
    Worded.serveAll requests ⟨rfl, rfl⟩
  rw [hworded.clear_eq, sanitize_emptyScope, hname.safeForm_parameterName]

/-- One name has digits in its parts, and one is a keyword. -/
theorem sanitize_parameterName_words :
    let scope := emptyScope.serveAll [.sanitize "itemId" .snake, .reserve "item_2"]
    IsSnake "x2_item_id34" ∧ IsSnake "lambda" ∧
      (scope.clear.sanitize (parameterName "x2_item_id34") .snake).1 = "x2_item_id34" ∧
      (scope.clear.sanitize (parameterName "lambda") .snake).1 = "lambda_" := by
  intro scope
  have hitem : IsSnake "x2_item_id34" := by decide
  have hlambda : IsSnake "lambda" := by decide
  refine ⟨hitem, hlambda, (sanitize_parameterName hitem _).trans (if_neg ?_),
    (sanitize_parameterName hlambda _).trans (if_pos ?_)⟩
  · decide
  · decide

/-- **A name that a cleared scope gives is given again** by a cleared scope in the same form, also
with the underscore of a digit or of a word of the language, and whatever the two scopes were called
for before. It is exactly the finished names that are given for themselves. -/
theorem sanitize_settles (name : String) (form : LetterCase) (calls calls' : List Call) :
    let answer := ((emptyScope.after calls).clear.sanitize name form).1
    ((emptyScope.after calls').clear.sanitize answer form).1 = answer ∧
      (answer = name ↔ emptyScope.Finished form name) := by
  intro answer
  have hcleared (calls : List Call) (name : String) :
      ((emptyScope.after calls).clear.sanitize name form).1 =
        emptyScope.base (safeForm name form) "_" := by
    rw [clear_after, sanitize_clear]
  have hanswer : answer = emptyScope.base (safeForm name form) "_" := hcleared calls name
  have hfinished : emptyScope.Finished form answer := hanswer ▸ emptyScope.finished_base name form
  refine ⟨?_, fun hsame => hsame ▸ hfinished, fun hname => hanswer.trans hname.base_eq⟩
  rw [hcleared calls' answer, hfinished.base_eq]

/-- The underscore of a keyword and that of a digit are taken away and put back. -/
example : (emptyScope.sanitize "Class" .snake).1 = "class_" ∧
    (emptyScope.sanitize "class_" .snake).1 = "class_" ∧
    (emptyScope.sanitize "3D-View__" .preserve).1 = "_3D_View" ∧
    (emptyScope.sanitize "_3D_View" .preserve).1 = "_3D_View" := by
  decide +kernel

end Python
end TrackingPlan
