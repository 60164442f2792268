import TrackingPlan.Python.Literal
import TrackingPlan.Template.Expression

/-!
# Constants in templates

What is known before the variables are is worked out when a template is read: a sign before a
constant, and a filter whose value and arguments are all constants, if it can be worked out. What
remains has to be written down for later, and that sets limits of its own: an integer must not
have too many digits, an infinite number has no later value unless it is all that a hole holds,
and the names of arguments must differ from each other and from one word. When a reserved word is
among the names, the arguments are passed as a table, in which names are free.

Key definitions: `Operand.folded`, `Operand.isReadable`, `Operand.result?`.
-/

namespace TrackingPlan
namespace Operand

/-- The value of a constant. -/
def constant? : Operand → Option TemplateValue
  | constant v => some (.value v)
  | _ => none

/-- A sign before an operand, worked out if it can be. -/
def foldSigned (negative : Bool) (x : Operand) : Operand :=
  match x.constant?.bind (·.signed? negative) with
  | some (.value v) => constant v
  | _ => signed negative x

/-- A filter with its operand and its arguments, worked out if it can be. -/
def foldFiltered (x : Operand) (filter : TemplateFilter) (placed : List Operand)
    (keyed : List (String × Operand)) : Operand :=
  let text? := do
    let values ← placed.mapM constant?
    let keyedValues ← keyed.mapM fun (name, x) => x.constant?.map fun v => (name, v)
    filter.output? (← x.constant?) ⟨values, keyedValues⟩
  match text? with
  | some text => constant (.str text)
  | none => filtered x filter placed keyed

mutual

/-- The operand with all that is known worked out. -/
def folded : Operand → Operand
  | constant v => constant v
  | named name => named name
  | signed negative x => foldSigned negative x.folded
  | filtered x filter placed keyed =>
    foldFiltered x.folded filter (foldedAll placed) (foldedKeyed keyed)

/-- A list of operands with all that is known worked out. -/
def foldedAll : List Operand → List Operand
  | [] => []
  | x :: rest => x.folded :: foldedAll rest

/-- Named arguments with all that is known worked out. -/
def foldedKeyed : List (String × Operand) → List (String × Operand)
  | [] => []
  | (name, x) :: rest => (name, x.folded) :: foldedKeyed rest

end

/-- Words that no argument is passed by. -/
def reservedWords : List String := Python.keywords

/-- The word that no argument may be called. -/
def forbiddenKey : String := "__debug__"

/-- Can arguments have these names? -/
def areKeys (names : List String) : Bool :=
  names.any (reservedWords.contains ·) ||
    (decide (names.map plainKey).Nodup && !(names.map plainKey).contains forbiddenKey)

/-- Can the operand be written down for later, its parts apart? -/
def isWritable : Operand → Bool
  | constant (.int n) => (integerText? n).isSome
  | filtered _ _ _ keyed => areKeys (keyed.map (·.1))
  | _ => true

/-- Can the operand of a hole be read, when all that is known has been worked out? -/
def isReadable (x : Operand) : Bool := x.parts.all isWritable

/-- Is the operand an infinite number? -/
def isInfinite : Operand → Bool
  | constant (.real (.infinity _)) => true
  | _ => false

/-- The value of the operand of a hole, if it has one. -/
def result? (scope : String → TemplateValue) (x : Operand) : Option TemplateValue :=
  if x.parts.tail.any isInfinite then none else x.value? scope

end Operand
end TrackingPlan
