import CreationLoader.Association
import CreationLoader.Json.Value

/-!
# Script values

The values that the scripts of a page hand over, as far as they matter here. Objects live in
a heap and are known by their address: two values are the identical object if they have the
same address. Every object is of one of four kinds; functions and elements are known by a
name and a number and need no address.

The own properties of a plain object are listed in the order that scripts see: first the
names that are array indices, by number, and then the others as they were added.
-/

namespace CreationLoader.Script

abbrev Ref := Nat

inductive Value
  | undefined
  | null
  | bool (b : Bool)
  | number (x : Float)
  | string (s : String)
  | function (name : String)
  | element (number : Nat)
  | object (ref : Ref)
  deriving Inhabited, Repr

/-- A class whose instances are made for an element and an object of parameters. -/
structure Constructor where
  name : String
  /-- For which elements it throws, and what. -/
  throws : List (Nat × Value) := []
  /-- The assignments that it makes to the parameters: a path of property names, and a value. -/
  assigns : List (List String × Value) := []
  deriving Inhabited

inductive Object
  | plain (members : Params Value)
  | array (items : List Value)
  | error (message : String)
  | constructor (c : Constructor)
  deriving Inhabited

/-- All objects, each at its address. None is ever removed. -/
abbrev Heap := List Object

/-- What a value is when its address has been looked up. -/
inductive View
  | primitive
  | callable
  | element
  | plain (members : Params Value)
  | array (items : List Value)
  | error (message : String)

namespace Heap

def object? (heap : Heap) : Value → Option Object
  | .object ref => heap[ref]?
  | _ => none

def view (heap : Heap) (v : Value) : View :=
  match v with
  | .undefined | .null | .bool _ | .number _ | .string _ => .primitive
  | .function _ => .callable
  | .element _ => .element
  | .object _ =>
    match heap.object? v with
    | some (.plain members) => .plain members
    | some (.array items) => .array items
    | some (.error message) => .error message
    | some (.constructor _) => .callable
    | none => .plain ∅

def isFunction (heap : Heap) (v : Value) : Bool :=
  match heap.view v with
  | .callable => true
  | _ => false

def isObject (heap : Heap) (v : Value) : Bool :=
  match heap.view v with
  | .primitive | .callable => false
  | _ => true

end Heap

/-- The number that a property name writes, if it is an array index: decimal digits without
leading zeros, below `2 ^ 32 - 1`. -/
def arrayIndex? (name : String) : Option Nat :=
  let digits := name.toList
  if digits.isEmpty ∨ !digits.all (fun c => decide ('0' ≤ c ∧ c ≤ '9')) then none
  else if digits.length > 1 ∧ digits.head? = some '0' then none
  else
    let n := digits.foldl (fun n c => n * 10 + (c.toNat - '0'.toNat)) 0
    if n < Nat.pow 2 32 - 1 then some n else none

/-- Members in the order in which scripts see them. -/
def enumerated (members : List (String × Value)) : List (String × Value) :=
  let indexed := members.filterMap fun e => (arrayIndex? e.1).map fun n => (n, e)
  (indexed.mergeSort fun a b => a.1 ≤ b.1).map Prod.snd ++
    members.filter fun e => (arrayIndex? e.1).isNone

def indexed (items : List Value) : List (String × Value) :=
  items.zipIdx.map fun e => (toString e.2, e.1)

namespace Heap

/-- The own enumerable properties of a value, in the order in which scripts see them. Of
primitives, only strings have any: their characters. A character is one entry here; scripts list the
two halves of one that lies outside the basic plane, which no string here can hold. -/
def entries (heap : Heap) (v : Value) : List (String × Value) :=
  match v with
  | .string s => indexed (s.toList.map fun c => .string c.toString)
  | v =>
    match heap.view v with
    | .plain members => enumerated members.entries
    | .array items => indexed items
    | _ => []

/-- A property of an object. What it does not have is undefined. -/
def property (heap : Heap) (v : Value) (name : String) : Value :=
  match heap.view v with
  | .plain members => (members.get? name).getD .undefined
  | .array items => ((arrayIndex? name).bind (items[·]?)).getD .undefined
  | _ => .undefined

def hasProperty (heap : Heap) (v : Value) (name : String) : Bool :=
  match heap.view v with
  | .plain members => members.contains name
  | .array items => ((arrayIndex? name).bind (items[·]?)).isSome
  | _ => false

def alloc (heap : Heap) (o : Object) : Ref × Heap := (heap.length, heap ++ [o])

/-- Sets a property of an object. On anything else it does nothing. -/
def assign (heap : Heap) (v : Value) (name : String) (value : Value) : Heap :=
  match v with
  | .object ref =>
    heap.modify ref fun
      | .plain members => .plain (members.insert name value)
      | .array items =>
        match arrayIndex? name with
        | some i => .array (if i = items.length then items ++ [value] else items.set i value)
        | none => .array items
      | o => o
  | _ => heap

/-- Sets the property at the end of a path. If the path breaks off before, nothing is done. -/
def assignPath (heap : Heap) (v : Value) : List String → Value → Heap
  | [], _ => heap
  | [name], value => heap.assign v name value
  | name :: path, value =>
    if heap.hasProperty v name then heap.assignPath (heap.property v name) path value else heap

end Heap

def Value.identical : Value → Value → Bool
  | .undefined, .undefined => true
  | .null, .null => true
  | .bool a, .bool b => a == b
  | .number x, .number y => x == y
  | .string s, .string t => s == t
  | .function a, .function b => a == b
  | .element m, .element n => m == n
  | .object r, .object q => r == q
  | _, _ => false

end CreationLoader.Script
