import CreationLoader.Json.Value
import CreationLoader.Script.Value

/-!
# Tagged notation

Script values written as JSON. What JSON cannot write stands in an object with a single
member, whose name tells what it is. A value can be given a name and be meant again by that
name, so that one object can stand in several places.
-/

namespace CreationLoader.Script

/-- The heap, and the values that were given names, the latest first. -/
structure Scope where
  heap : Heap := []
  names : List (String × Value) := []
  deriving Inhabited

namespace Scope

def add (s : Scope) (o : Object) : Value × Scope :=
  let (ref, heap) := s.heap.alloc o
  (.object ref, { s with heap })

def define (s : Scope) (name : String) (v : Value) : Scope :=
  { s with names := (name, v) :: s.names }

/-- The number that a tag stands for. -/
def numberNamed (name : String) : Float :=
  if name = "NaN" then 0.0 / 0.0
  else if name = "Infinity" then 1.0 / 0.0
  else if name = "-Infinity" then -1.0 / 0.0
  else -0.0

def numberOf : Json.Number → Float
  | .integer i => Float.ofInt i
  | .float x => x

def elementOf : Json.Number → Nat
  | .integer i => i.toNat
  | .float x => x.toUInt64.toNat

def pathOf (items : List Json.Value) : List String :=
  items.filterMap fun
    | .string name => some name
    | _ => none

mutual

/-- The value that is written; the name that is not known, if there is one. -/
def read (s : Scope) : Json.Value → Except String (Value × Scope)
  | .null => .ok (.null, s)
  | .bool b => .ok (.bool b, s)
  | .number n => .ok (.number (numberOf n), s)
  | .string t => .ok (.string t, s)
  | .array items => do
    let (items, s) ← s.readItems items
    .ok (s.add (.array items))
  | .object [("$undefined", _)] => .ok (.undefined, s)
  | .object [("$num", .string name)] => .ok (.number (numberNamed name), s)
  | .object [("$fn", .string name)] => .ok (.function name, s)
  | .object [("$node", .number n)] => .ok (.element (elementOf n), s)
  | .object [("$error", .string message)] => .ok (s.add (.error message))
  | .object [("$class", .object fields)] => do
    let (c, s) ← s.readClass fields
    .ok (s.add (.constructor c))
  | .object [("$def", .array [.string name, v])] => do
    let (v, s) ← s.read v
    .ok (v, s.define name v)
  | .object [("$ref", .string name)] =>
    match s.names.lookup name with
    | some v => .ok (v, s)
    | none => .error name
  | .object members => do
    let (members, s) ← s.readMembers members
    .ok (s.add (.plain (Params.ofList members)))

def readItems (s : Scope) : List Json.Value → Except String (List Value × Scope)
  | [] => .ok ([], s)
  | v :: rest => do
    let (v, s) ← s.read v
    let (values, s) ← s.readItems rest
    .ok (v :: values, s)

def readMembers (s : Scope) :
    List (String × Json.Value) → Except String (List (String × Value) × Scope)
  | [] => .ok ([], s)
  | (name, v) :: rest => do
    let (v, s) ← s.read v
    let (members, s) ← s.readMembers rest
    .ok ((name, v) :: members, s)

def readClass (s : Scope) :
    List (String × Json.Value) → Except String (Constructor × Scope)
  | [] => .ok ({ name := "" }, s)
  | ("name", .string name) :: rest => do
    let (c, s) ← s.readClass rest
    .ok ({ c with name }, s)
  | ("throws", .array throws) :: rest => do
    let (throws, s) ← s.readThrows throws
    let (c, s) ← s.readClass rest
    .ok ({ c with throws }, s)
  | ("set", .array assigns) :: rest => do
    let (assigns, s) ← s.readAssigns assigns
    let (c, s) ← s.readClass rest
    .ok ({ c with assigns }, s)
  | _ :: rest => s.readClass rest

def readThrows (s : Scope) : List Json.Value → Except String (List (Nat × Value) × Scope)
  | [] => .ok ([], s)
  | .array [.number n, v] :: rest => do
    let (v, s) ← s.read v
    let (throws, s) ← s.readThrows rest
    .ok ((elementOf n, v) :: throws, s)
  | _ :: rest => s.readThrows rest

def readAssigns (s : Scope) :
    List Json.Value → Except String (List (List String × Value) × Scope)
  | [] => .ok ([], s)
  | .array [.array path, v] :: rest => do
    let (v, s) ← s.read v
    let (assigns, s) ← s.readAssigns rest
    .ok ((pathOf path, v) :: assigns, s)
  | _ :: rest => s.readAssigns rest

end

end Scope

end CreationLoader.Script
