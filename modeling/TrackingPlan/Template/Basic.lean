import TrackingPlan.Template.Constant

/-!
# Templates

A template is literal text with holes. A hole shows the value of an operand. A variable without a
value is empty text, but a few variables have one of their own until they are given another; the
variable `self` is the template itself, and so it cannot be given a value.

Variables whose names have one plain form share a place. It is filled in the order in which the
names first occur in the template, after the template itself was put there, and the last one
counts even where it has no value.

Key definitions: `Template`, `Template.render?`, `TemplateError`.
-/

namespace TrackingPlan

/-- A piece of a template. -/
inductive TemplatePiece where
  | text (s : List Char)
  | hole (operand : Operand)

/-- A template that has been read. -/
abbrev Template := List TemplatePiece

/-- The text of a piece under the values of the variables, if all its values fit. -/
def TemplatePiece.render? (scope : String → TemplateValue) :
    TemplatePiece → Option (List Char)
  | text s => some s
  | hole operand => do
    let v ← operand.result? scope
    return (← v.display?).toList

/-- The variables of a piece, in order. -/
def TemplatePiece.names : TemplatePiece → List String
  | text _ => []
  | hole operand => operand.names

namespace Template

/-- The variable that stands for the template itself. -/
def selfName : String := "self"

/-- What is shown of a template that may have a name. -/
def shown (name : Option String) : String :=
  "<TemplateReference " ++ (match name with
    | some name => Text.shownQuoted name
    | none => "None") ++ ">"

/-- What is shown of the variables that have a value of their own. -/
def ownValues : Assoc String := [
  ("range", "<class 'range'>"),
  ("dict", "<class 'dict'>"),
  ("lipsum", "<function generate_lorem_ipsum>"),
  ("cycler", "<class 'jinja2.utils.Cycler'>"),
  ("joiner", "<class 'jinja2.utils.Joiner'>"),
  ("namespace", "<class 'jinja2.utils.Namespace'>")]

/-- The values of the variables in a template that may have a name. -/
def scopeOf (name : Option String) (values : Assoc Json) (asked : String) : TemplateValue :=
  if asked = selfName then .thing (shown name)
  else match values.get? asked with
    | some v => .value v
    | none => match ownValues.get? asked with
      | some text => .thing text
      | none => .unset

/-- The names of the variables in the order in which their places are filled, each under the
plain form that it shares with others. -/
def places (t : Template) : Assoc String :=
  let names := (t.flatMap TemplatePiece.names).eraseDups
  let names := if names.contains selfName then selfName :: names.erase selfName else names
  names.map fun name => (Layout.onText Text.plainForm name, name)

/-- The variable whose value is shown for a name: the last one of its plain form. -/
def filledBy (places : Assoc String) (asked : String) : String :=
  (places.reverse.lookup (Layout.onText Text.plainForm asked)).getD asked

/-- The text of a template under the values of the variables, if all values fit. -/
def render? (t : Template) (name : Option String) (values : Assoc Json) : Option String :=
  if values.has selfName then none
  else
    let scope := scopeOf name values ∘ filledBy t.places
    (t.mapM (TemplatePiece.render? scope)).map fun pieces => String.ofList pieces.flatten

end Template

/-- Why a template has no text: it is not there, it cannot be read, or its values do not fit. -/
inductive TemplateError where
  | named (template : String)
  | anonymous
  deriving DecidableEq, Repr

/-- The text of a template error. -/
def TemplateError.message : TemplateError → String
  | named template => "Failed to render template " ++ template
  | anonymous => "Failed to render template string"

end TrackingPlan
