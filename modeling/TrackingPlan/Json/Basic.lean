import TrackingPlan.Assoc
import TrackingPlan.Number.Shortest

/-!
# JSON values

Values as a document holds them: integers without bound apart from doubles, and objects whose
members keep their order.

Key definitions: `Json`, `Json.Kind`, `Json.kind`, `Json.decideEq`, `Json.same`, `Json.isTruthy`.
-/

namespace TrackingPlan

/-- A JSON value. -/
inductive Json where
  | null
  | bool (b : Bool)
  | int (n : Int)
  | real (x : Double)
  | str (s : String)
  | arr (items : List Json)
  | obj (members : List (String × Json))
  deriving Inhabited

namespace Json

mutual

/-- Decides the equality of two values. -/
def decideEq : (a b : Json) → Decidable (a = b)
  | null, b => match b with
    | null => isTrue rfl
    | bool _ | int _ | real _ | str _ | arr _ | obj _ => isFalse nofun
  | bool x, b => match b with
    | bool y => decidable_of_iff (x = y) (by simp)
    | null | int _ | real _ | str _ | arr _ | obj _ => isFalse nofun
  | int x, b => match b with
    | int y => decidable_of_iff (x = y) (by simp)
    | null | bool _ | real _ | str _ | arr _ | obj _ => isFalse nofun
  | real x, b => match b with
    | real y => decidable_of_iff (x = y) (by simp)
    | null | bool _ | int _ | str _ | arr _ | obj _ => isFalse nofun
  | str x, b => match b with
    | str y => decidable_of_iff (x = y) (by simp)
    | null | bool _ | int _ | real _ | arr _ | obj _ => isFalse nofun
  | arr x, b => match b with
    | arr y => match decideEqItems x y with
      | isTrue h => isTrue (by rw [h])
      | isFalse h => isFalse (by simpa using h)
    | null | bool _ | int _ | real _ | str _ | obj _ => isFalse nofun
  | obj x, b => match b with
    | obj y => match decideEqMembers x y with
      | isTrue h => isTrue (by rw [h])
      | isFalse h => isFalse (by simpa using h)
    | null | bool _ | int _ | real _ | str _ | arr _ => isFalse nofun

/-- Decides the equality of two lists of values. -/
def decideEqItems : (a b : List Json) → Decidable (a = b)
  | [], b => match b with
    | [] => isTrue rfl
    | _ :: _ => isFalse nofun
  | x :: xs, b => match b with
    | [] => isFalse nofun
    | y :: ys => match decideEq x y, decideEqItems xs ys with
      | isTrue h, isTrue h' => isTrue (by rw [h, h'])
      | isFalse h, _ => isFalse (by simp [h])
      | _, isFalse h => isFalse (by simp [h])

/-- Decides the equality of two lists of members, their order included. -/
def decideEqMembers : (a b : List (String × Json)) → Decidable (a = b)
  | [], b => match b with
    | [] => isTrue rfl
    | _ :: _ => isFalse nofun
  | (k, x) :: xs, b => match b with
    | [] => isFalse nofun
    | (l, y) :: ys =>
      if hk : k = l then
        match decideEq x y, decideEqMembers xs ys with
        | isTrue h, isTrue h' => isTrue (by rw [hk, h, h'])
        | isFalse h, _ => isFalse (by simp [h])
        | _, isFalse h => isFalse (by simp [h])
      else isFalse (by simp [hk])

end

instance : DecidableEq Json := decideEq

/-- The kinds of values. -/
inductive Kind where
  | null
  | boolean
  | integer
  | real
  | text
  | list
  | object
  deriving DecidableEq, Repr

/-- The kind of a value. -/
def kind : Json → Kind
  | null => .null
  | bool _ => .boolean
  | int _ => .integer
  | real _ => .real
  | str _ => .text
  | arr _ => .list
  | obj _ => .object

/-- The word for a kind in messages. -/
def Kind.word : Kind → String
  | .null => "NoneType"
  | .boolean => "bool"
  | .integer => "int"
  | .real => "float"
  | .text => "str"
  | .list => "list"
  | .object => "dict"

/-- The value of a member; a missing one counts as null. -/
def member (members : Assoc Json) (key : String) : Json := (members.get? key).getD null

/-- A value that counts as set: neither null nor false, zero or empty. -/
def isTruthy : Json → Bool
  | null => false
  | bool b => b
  | int n => n != 0
  | real x => !x.isInt 0
  | str s => s != ""
  | arr items => !items.isEmpty
  | obj members => !members.isEmpty

/-- The number that a value stands for in a comparison; the booleans stand for 0 and 1. -/
def number? : Json → Option (Int ⊕ Double)
  | bool b => some (.inl (if b then 1 else 0))
  | int n => some (.inl n)
  | real x => some (.inr x)
  | _ => none

/-- Do two values stand for the same number? What is not a number is the same as itself. -/
def sameNumber (a b : Json) : Bool :=
  match a.number?, b.number? with
  | some (.inl m), some (.inl n) => m == n
  | some (.inl m), some (.inr y) => y.isInt m
  | some (.inr x), some (.inl n) => x.isInt n
  | some (.inr x), some (.inr y) => decide (x = y) || x.sameNumber y
  | _, _ => false

/-- Does the first value stand for a number below that of the second? -/
def isBelow (a b : Json) : Bool :=
  match a.number?, b.number? with
  | some (.inl m), some (.inl n) => decide (m < n)
  | some (.inl m), some (.inr y) => (Double.exactly m).isBelow y
  | some (.inr x), some (.inl n) => x.isBelow (Double.exactly n)
  | some (.inr x), some (.inr y) => x.isBelow y
  | _, _ => false

/-- Is the value a list or an object? -/
def isContainer : Json → Bool
  | arr _ => true
  | obj _ => true
  | _ => false

mutual

/-- Are two values the same? Numbers are compared by value, and the order of members does not
count. -/
def same : Json → Json → Bool
  | null, b => b.kind == .null
  | str s, b => match b with
    | str t => s == t
    | _ => false
  | arr xs, b => match b with
    | arr ys => sameItems xs ys
    | _ => false
  | obj xs, b => match b with
    | obj ys => xs.length == ys.length && sameMembers xs ys
    | _ => false
  | bool x, b => sameNumber (bool x) b
  | int x, b => sameNumber (int x) b
  | real x, b => sameNumber (real x) b

/-- Are two lists of values the same, one by one? -/
def sameItems : List Json → List Json → Bool
  | [], ys => ys.isEmpty
  | x :: xs, ys => match ys with
    | [] => false
    | y :: ys => same x y && sameItems xs ys

/-- Is every member in the other object too, with the same value? -/
def sameMembers : List (String × Json) → List (String × Json) → Bool
  | [], _ => true
  | (k, x) :: xs, ys => (match Assoc.get? ys k with
    | some y => same x y
    | none => false) && sameMembers xs ys

end

end Json
end TrackingPlan
