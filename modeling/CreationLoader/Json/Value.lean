import CreationLoader.Params.Basic
import CreationLoader.Decimal.Layout

/-!
# JSON values

A JSON document as a value. The members of an object stand in the order in which their
names were first written. Two objects are the same if they hold the same names with the
same values, in any order.
-/

namespace CreationLoader.Json

/-- A JSON number: an integer between `-2 ^ 63` and `2 ^ 64`, or a double. -/
inductive Number
  | integer (i : Int)
  | float (x : Float)
  deriving Repr, Inhabited

/-- Integers and doubles are never equal to each other. -/
def Number.same : Number → Number → Bool
  | .integer i, .integer j => i == j
  | .float x, .float y => x == y
  | _, _ => false

def Number.layout : Decimal.Layout :=
  { least := -5, greatest := 15, keepsFraction := true, signsZero := true }

def integerText (i : Int) : List Char :=
  if i < 0 then '-' :: Decimal.digitsOf i.natAbs else Decimal.digitsOf i.natAbs

/-- A number as it is written. What is no finite number has no notation of its own. -/
def Number.text : Number → List Char
  | .integer i => integerText i
  | .float x => (layout.finite? x).getD "null".toList

inductive Value
  | null
  | bool (b : Bool)
  | number (n : Number)
  | string (s : String)
  | array (items : List Value)
  | object (members : List (String × Value))
  deriving Inhabited

mutual

/-- Whether two values are the same when the order of members is left aside. -/
def Value.same : Value → Value → Bool
  | .null, .null => true
  | .bool a, .bool b => a == b
  | .number m, .number n => m.same n
  | .string s, .string t => s == t
  | .array xs, .array ys => sameItems xs ys
  | .object ms, .object ns => ms.length == ns.length && sameMembers ms ns
  | _, _ => false

def sameItems : List Value → List Value → Bool
  | [], [] => true
  | x :: xs, y :: ys => x.same y && sameItems xs ys
  | _, _ => false

/-- Whether every member of the first list is in the second with the same value. -/
def sameMembers : List (String × Value) → List (String × Value) → Bool
  | [], _ => true
  | (name, value) :: rest, others =>
    (match others.lookup name with
      | some other => value.same other
      | none => false) && sameMembers rest others

end

end CreationLoader.Json

namespace CreationLoader.Params

/-- Whether two sets of JSON parameters are the same: order is left aside at every level. -/
def same (p q : Params Json.Value) : Bool := p.sameBy Json.Value.same q

end CreationLoader.Params
