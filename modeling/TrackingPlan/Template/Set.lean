import TrackingPlan.Assoc
import TrackingPlan.Template.Reader

/-!
# Sets of templates

A language writes its fragments in its own layout, under the names of that layout, until a
template is stored. From then on only stored templates are there, each under its name.

Key definitions: `TemplateSet`, `TemplateSet.store`, `TemplateSet.has?`, `TemplateSet.render`,
`TemplateSet.fill`, `TemplateSet.fillFragment`.
-/

namespace TrackingPlan

/-- Where the texts of fragments come from. -/
inductive TemplateSet where
  | builtin (names : List String)
  | stored (contents : Assoc String)
  deriving DecidableEq, Repr

namespace TemplateSet

/-- The set with a template stored. -/
def store (t : TemplateSet) (name content : String) : TemplateSet :=
  match t with
  | builtin _ => stored [(name, content)]
  | stored contents => stored (contents.set name content)

/-- The name of a built-in template without empty and idle steps. -/
def plainName (name : String) : String :=
  "/".intercalate (((name.toList.splitOn '/').map String.ofList).filter
    fun part => part ≠ "" ∧ part ≠ ".")

/-- Is there a template of the name? A stored one has to be readable for an answer. -/
def has? (t : TemplateSet) (name : String) : Option Bool :=
  match t with
  | builtin names => some (plainName name ∈ names)
  | stored contents => match contents.get? name with
    | none => some false
    | some content => (Template.parse? content).map fun _ => true

/-- The text of a stored template under the values of the variables. -/
def render (t : TemplateSet) (name : String) (values : Assoc Json) :
    Except TemplateError String :=
  match t with
  | builtin _ => .error (.named name)
  | stored contents =>
    match ((contents.get? name).bind Template.parse?).bind (·.render? (some name) values) with
    | some text => .ok text
    | none => .error (.named name)

/-- The text of a fragment: its own layout, which has to be there, or the stored template that
replaces it. -/
def fill (t : TemplateSet) (name : String) (layout : Option String) :
    Except TemplateError String :=
  match t, layout with
  | builtin _, some text => .ok text
  | builtin _, none => .error (.named name)
  | stored _, _ => t.render name []

/-- The text of a fragment that is put into another one: line ends at the end of a stored
template do not count. -/
def fillFragment (t : TemplateSet) (name : String) (layout : Option String) :
    Except TemplateError String :=
  match t with
  | builtin _ => t.fill name layout
  | stored _ => (t.fill name layout).map (Layout.onText (Text.trimEnd (· = '\n')))

end TemplateSet

/-- The text of a template that has no name. -/
def renderText (text : String) (values : Assoc Json) : Except TemplateError String :=
  match (Template.parse? text).bind (·.render? none values) with
  | some text => .ok text
  | none => .error .anonymous

end TrackingPlan
