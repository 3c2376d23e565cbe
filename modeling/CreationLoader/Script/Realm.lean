import CreationLoader.Script.Value

/-!
# What is asked about script values

No more is asked about the values that a script hands over than this: of what type a value is, which
own properties it shows, and what one of its properties is. Reading properties runs code of the
page, if there are getters, and what this throws is thrown to whoever reads. What stands behind the
values is left open; a heap is one thing that can answer.
-/

namespace CreationLoader.Script

/-- The types that scripts tell apart, and what a string says. Null and functions are no objects
here. -/
inductive Kind
  | undefined
  | null
  | bool
  | number
  | bigint
  | string (text : String)
  | symbol
  | function
  | object
  deriving DecidableEq, Repr

/-- Answers about values of type `ν`. -/
structure Realm (ν : Type) where
  kind : ν → Kind
  /-- The own enumerable properties, in the order in which scripts see them, or the message of what
  a getter among them throws. -/
  entries : ν → Except String (List (String × ν))
  /-- A property, which is undefined if it is absent; none if reading it throws. -/
  get? : ν → String → Option ν

namespace Heap

def kind (heap : Heap) (v : Value) : Kind :=
  match v with
  | .undefined => .undefined
  | .null => .null
  | .bool _ => .bool
  | .number _ => .number
  | .string text => .string text
  | v => if heap.isFunction v then .function else .object

/-- Only what is a function or an object has properties that can be read. -/
def get? (heap : Heap) (v : Value) (name : String) : Option Value :=
  match heap.kind v with
  | .function | .object => some (heap.property v name)
  | _ => none

/-- The answers that the objects at their addresses give. None of them has a getter. -/
def realm (heap : Heap) : Realm Value where
  kind := heap.kind
  entries v := .ok (heap.entries v)
  get? := heap.get?

end Heap

end CreationLoader.Script
