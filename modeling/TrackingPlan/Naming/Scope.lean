import TrackingPlan.Assoc
import TrackingPlan.Naming.Snake

/-!
# Scopes of safe names

A scope hands out names that are safe in one namespace of the generated code: plain words that
are neither words of the language nor builtins it relies on, and that no one else in the scope
has. A name that was asked for before gets the same answer again, until the scope is cleared.

Key definitions: `LetterCase`, `Scope`, `Scope.sanitize`, `Scope.reserve`, `Scope.clear`.
-/

namespace TrackingPlan
namespace Naming

/-- The form in which a scope hands a name out. -/
inductive LetterCase where
  | snake
  | preserve
  deriving DecidableEq, Repr

/-- The word for a form. -/
def LetterCase.word : LetterCase → String
  | snake => "snake"
  | preserve => "preserve"

/-- The names of one namespace. -/
structure Scope where
  /-- Words of the language, which are never handed out. -/
  keywords : List String := []
  /-- Names that generated code relies on, which are never handed out. -/
  builtins : List String := []
  /-- The answers given so far, under the request each of them answers. -/
  answers : Assoc String := []
  /-- Every name that is taken. -/
  used : List String := []
  deriving DecidableEq, Repr

namespace Scope

/-- The text under which an answer is kept. -/
def requestKey (name : String) (form : LetterCase) (suffix : String) : String :=
  name ++ "_" ++ form.word ++ "_" ++ suffix

/-- The safe form of a name, before its conflicts are looked at. -/
def safeForm (name : String) (form : LetterCase) : String :=
  let word := plainWord name.toList
  let word := match form with
    | .snake => snakeWord word
    | .preserve => word
  String.ofList (match word with
    | c :: _ => if c.isDigit then '_' :: word else word
    | [] => [])

/-- The first of the names `base ++ suffix ++ k`, `base ++ suffix ++ (k + 1)`, … that is free,
looking at no more than `tries` of them. -/
def firstFree (used : List String) (base suffix : String) : (tries k : Nat) → String
  | 0, k => base ++ suffix ++ toString k
  | tries + 1, k =>
    let candidate := base ++ suffix ++ toString k
    if candidate ∈ used then firstFree used base suffix tries (k + 1) else candidate

/-- The name itself, with the suffix when it is a keyword or a builtin, and with a number too
when it is taken. As many tries as there are taken names are enough. -/
def resolve (s : Scope) (name suffix : String) : String :=
  let base := if name ∈ s.keywords ∨ name ∈ s.builtins then name ++ suffix else name
  if base ∈ s.used then firstFree s.used base suffix s.used.length 1 else base

/-- The safe name for a name, and the scope that has handed it out. -/
def sanitize (s : Scope) (name : String) (form : LetterCase := .snake) (suffix : String := "_") :
    String × Scope :=
  let key := requestKey name form suffix
  match s.answers.get? key with
  | some answer => (answer, s)
  | none =>
    let answer := s.resolve (safeForm name form) suffix
    (answer, { s with answers := s.answers.set key answer, used := answer :: s.used })

/-- The scope with a name taken. -/
def reserve (s : Scope) (name : String) : Scope := { s with used := name :: s.used }

/-- The scope with every name forgotten. -/
def clear (s : Scope) : Scope := { s with answers := [], used := [] }

end Scope
end Naming
end TrackingPlan
