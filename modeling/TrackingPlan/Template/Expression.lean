import TrackingPlan.Json.Display
import TrackingPlan.Json.Printer
import TrackingPlan.Json.Reader
import TrackingPlan.Layout
import TrackingPlan.Text.Compatibility

/-!
# Values in templates

A hole of a template holds an operand: a constant, a variable, or another operand under a sign or
passed through a filter. Filters take arguments by place or by name, and the plain form of the
name counts. Whether an argument fits is seen only when the value is asked for: a sign wants a
number, the width of an indentation wants an integer, and everything else takes any value for
what it counts or what is shown of it.

Key definitions: `Operand`, `TemplateValue`, `TemplateFilter.output?`, `Operand.value?`.
-/

namespace TrackingPlan

/-- The filters. -/
inductive TemplateFilter where
  | indent
  | comment
  deriving DecidableEq, Repr

/-- What stands in a hole, under a sign, before a filter, or as the argument of a filter. A filter
takes arguments without a name before those that have one. -/
inductive Operand where
  | constant (v : Json)
  | named (name : String)
  | signed (negative : Bool) (operand : Operand)
  | filtered (operand : Operand) (filter : TemplateFilter) (placed : List Operand)
      (keyed : List (String × Operand))

/-- The value of an operand: none for a variable that is not set, and a thing that can only be
shown, such as the template itself. -/
inductive TemplateValue where
  | unset
  | value (v : Json)
  | thing (text : String)
  deriving DecidableEq

namespace TemplateValue

/-- The text of a value, if it can be written; an unset one is empty. -/
def display? : TemplateValue → Option String
  | unset => some ""
  | value v => v.display?
  | thing text => some text

/-- Does the value count as set? -/
def isTruthy : TemplateValue → Bool
  | unset => false
  | value v => v.isTruthy
  | thing _ => true

/-- A number under a sign; a truth value counts as 0 or 1. -/
def signed? (negative : Bool) : TemplateValue → Option TemplateValue
  | value (.int n) => some (value (.int (if negative then -n else n)))
  | value (.bool b) => some (value (.int (if b then (if negative then -1 else 1) else 0)))
  | value (.real x) => some (value (.real (if negative then x.negate else x)))
  | _ => none

/-- The most blanks that a line can be indented by. -/
def maxWidth : Int := 68719476736

/-- The least number that stands for no blanks at all. -/
def minWidth : Int := -9223372036854775808

/-- The number of blanks that a value stands for. -/
def width? : TemplateValue → Option Nat
  | value (.int n) => if minWidth ≤ n ∧ n ≤ maxWidth then some n.toNat else none
  | value (.bool b) => some (if b then 1 else 0)
  | _ => none

end TemplateValue

namespace TemplateFilter

/-- The filter of a name. -/
def ofName? : String → Option TemplateFilter
  | "indent" => some indent
  | "comment" => some comment
  | _ => none

/-- The names of the arguments, in their places. -/
def parameters : TemplateFilter → List String
  | indent => ["spaces", "first"]
  | comment => ["style"]

/-- The arguments of a filter: those that have no name, then those that have one. -/
structure Arguments where
  placed : List TemplateValue
  keyed : Assoc TemplateValue

/-- Does every argument fit one parameter of its own? -/
def isFitting (f : TemplateFilter) (as : Arguments) : Bool :=
  as.placed.length ≤ f.parameters.length &&
    as.keyed.all fun (name, _) => (f.parameters.drop as.placed.length).contains name

/-- The value of a parameter, or its default when there is no argument for it; of two arguments
with one name the last counts. -/
def Arguments.get (as : Arguments) (i : Nat) (name : String) (default : Json) : TemplateValue :=
  ((as.placed[i]?).or (as.keyed.reverse.lookup name)).getD (.value default)

/-- The text of a value after the filter, if the arguments fit. A mark is asked for its text only
where there is a line to be marked. -/
def output? (f : TemplateFilter) (x : TemplateValue) (as : Arguments) : Option String := do
  let s ← x.display?
  if !f.isFitting as then none
  else match f with
    | indent =>
      let width ← (as.get 0 "spaces" (.int 4)).width?
      return Layout.onText
        (Layout.indentLines width (as.get 1 "first" (.bool true)).isTruthy) s
    | comment =>
      if Text.allBlank s.toList then return s
      else return Layout.comment (← (as.get 0 "style" (.str "//")).display?) s

end TemplateFilter

namespace Operand

/-- The parameter that a name stands for. -/
def plainKey (name : String) : String := Layout.onText Text.plainForm name

mutual

/-- The value of an operand under the values of the variables, if it has one. -/
def value? (scope : String → TemplateValue) : Operand → Option TemplateValue
  | constant v => some (.value v)
  | named name => some (scope name)
  | signed negative x => (x.value? scope).bind (·.signed? negative)
  | filtered x filter placed keyed => do
    let text ← filter.output? (← x.value? scope)
      ⟨← valuesOf? scope placed, ← keyedValues? scope keyed⟩
    return .value (.str text)

/-- The values of operands, if all have one. -/
def valuesOf? (scope : String → TemplateValue) : List Operand → Option (List TemplateValue)
  | [] => some []
  | x :: rest => do return (← x.value? scope) :: (← valuesOf? scope rest)

/-- The values of operands under the parameters that their names stand for, if all have one. -/
def keyedValues? (scope : String → TemplateValue) :
    List (String × Operand) → Option (Assoc TemplateValue)
  | [] => some []
  | (name, x) :: rest => do
    return (plainKey name, ← x.value? scope) :: (← keyedValues? scope rest)

end

mutual

/-- The operands that an operand is made of, itself first. -/
def parts : Operand → List Operand
  | constant v => [constant v]
  | named name => [named name]
  | signed negative x => signed negative x :: x.parts
  | filtered x filter placed keyed =>
    filtered x filter placed keyed :: (x.parts ++ partsOf placed ++ keyedParts keyed)

/-- The operands that a list of operands is made of. -/
def partsOf : List Operand → List Operand
  | [] => []
  | x :: rest => x.parts ++ partsOf rest

/-- The operands that named arguments are made of. -/
def keyedParts : List (String × Operand) → List Operand
  | [] => []
  | (_, x) :: rest => x.parts ++ keyedParts rest

end

/-- The variables of an operand, in order. -/
def names (x : Operand) : List String :=
  x.parts.filterMap fun
    | named name => some name
    | _ => none

end Operand
end TrackingPlan
