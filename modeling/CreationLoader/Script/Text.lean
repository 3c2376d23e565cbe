import CreationLoader.Json.Quoted
import CreationLoader.Script.Value

/-!
# Texts of script values

Three texts of a value: the tagged notation, in which every kind of value can be told; the
JSON that scripts make of it; and the text by which a value that is not expected is named in
a message.

A value is written level by level. No value has more levels than the heap has objects,
unless it contains itself, and the levels are limited to that number.
-/

namespace CreationLoader.Script

def numberLayout : Decimal.Layout :=
  { least := -6, greatest := 20, keepsFraction := false, signsZero := false }

def numberText (x : Float) : String :=
  match numberLayout.finite? x with
  | some cs => String.ofList cs
  | none => if x.isNaN then "NaN" else if x < 0 then "-Infinity" else "Infinity"

def quoted (s : String) : String := String.ofList (Json.quoted s)

def isNegativeZero (x : Float) : Bool := Decimal.Kind.ofBits x.toBits == .zero true

def tagged (tag value : String) : String := "\x7b\"$" ++ tag ++ "\":" ++ value ++ "\x7d"

def listText (items : List String) : String := "[" ++ ",".intercalate items ++ "]"

def objectText (members : List (String × String)) : String :=
  "\x7b" ++ ",".intercalate (members.map fun e => quoted e.1 ++ ":" ++ e.2) ++ "\x7d"

namespace Heap

/-- A value in the tagged notation, with so many levels. -/
def textTo (heap : Heap) : (levels : Nat) → Value → String
  | _, .undefined => tagged "undefined" "1"
  | _, .null => "null"
  | _, .bool b => if b then "true" else "false"
  | _, .number x =>
    if isNegativeZero x then tagged "num" (quoted "-0")
    else if x.isNaN ∨ x.isInf then tagged "num" (quoted (numberText x))
    else numberText x
  | _, .string s => quoted s
  | _, .function name => tagged "fn" (quoted name)
  | _, .element n => tagged "node" (toString n)
  | 0, .object _ => "null"
  | levels + 1, .object ref =>
    match heap[ref]? with
    | some (.plain members) =>
      objectText ((enumerated members.entries).map fun e => (e.1, heap.textTo levels e.2))
    | some (.array items) => listText (items.map (heap.textTo levels))
    | some (.error message) => tagged "error" (quoted message)
    | some (.constructor c) => tagged "class" (objectText [("name", quoted c.name)])
    | none => "null"

def text (heap : Heap) (v : Value) : String := heap.textTo (heap.length + 1) v

/-- The JSON that scripts make of a value, with so many levels; none of what has no JSON. -/
def json?To (heap : Heap) : (levels : Nat) → Value → Option String
  | _, .undefined => none
  | _, .null => some "null"
  | _, .bool b => some (if b then "true" else "false")
  | _, .number x => some (if x.isNaN ∨ x.isInf then "null" else numberText x)
  | _, .string s => some (quoted s)
  | _, .function _ => none
  | _, .element _ => some (objectText [])
  | 0, .object _ => none
  | levels + 1, .object ref =>
    match heap[ref]? with
    | some (.plain members) =>
      some (objectText ((enumerated members.entries).filterMap fun e =>
        (heap.json?To levels e.2).map fun t => (e.1, t)))
    | some (.array items) =>
      some (listText (items.map fun v => (heap.json?To levels v).getD "null"))
    | some (.error _) => some (objectText [])
    | some (.constructor _) => none
    | none => none

def functionName (name : String) : String :=
  if name.isEmpty then "Function" else "Function(" ++ name ++ ")"

/-- What a value is, with so many levels of lists. -/
def kindTo (heap : Heap) : (levels : Nat) → Value → String
  | _, .undefined => "undefined"
  | _, .null => "null"
  | _, .bool b => if b then "true" else "false"
  | _, .number x => numberText x
  | _, .string s => "\"" ++ s ++ "\""
  | _, .function name => functionName name
  | _, .element _ => "HTMLElement"
  | 0, .object _ => "Object"
  | levels + 1, .object ref =>
    match heap[ref]? with
    | some (.plain _) =>
      "Object(" ++ (heap.json?To (heap.length + 1) (.object ref)).getD "" ++ ")"
    | some (.array items) => Text.bracketed (items.map (heap.kindTo levels))
    | some (.error message) => "Error: " ++ message
    | some (.constructor c) => functionName c.name
    | none => "Object"

/-- The text by which a value is named in a message. -/
def dump (heap : Heap) (v : Value) : String :=
  "JsValue(" ++ heap.kindTo (heap.length + 1) v ++ ")"

/-- Why something failed, by the value that it has thrown: the message of an error, a string
as it is, and anything else by name. -/
def reason (heap : Heap) (v : Value) : String :=
  match v with
  | .string s => s
  | v =>
    match heap.view v with
    | .error message => message
    | _ => heap.dump v

end Heap

end CreationLoader.Script
