import CreationLoader.Browser.Page

/-!
# Creations made by classes

A creation is made by calling a class with an element and an object of parameters. All
elements of one call receive the same new object, whose properties are the merged parameters
with their very values.
-/

namespace CreationLoader.Browser
open Script

structure Class where
  callee : Value

/-- An instance holds the element and the object of parameters that it was made with. -/
structure Instance where
  node : Nat
  params : Ref
  deriving DecidableEq, Repr

/-- A new object on which the parameters are set as properties, in order. -/
def newParams (params : Params Value) : Action Page Call Ref := do
  let page ← Action.get
  let (ref, heap) := page.heap.alloc (.plain ∅)
  let heap := params.entries.foldl (fun heap e => heap.assign (.object ref) e.1 e.2) heap
  Action.modify fun page => { page with heap }
  return ref

/-- The number of an object of parameters among those that were received; it is noted if it
has not been received before. -/
def receive (params : Ref) : Action Page Call Nat := do
  let page ← Action.get
  match page.received.findIdx? (· == params) with
  | some number => return number
  | none =>
    Action.modify fun page => { page with received := page.received ++ [params] }
    return page.received.length

/-- What a class is in the heap. A function is taken for one that can construct, and neither throws
nor assigns. Functions that cannot, such as arrow functions, are left out. -/
def Class.constructor (c : Class) (heap : Heap) : Constructor :=
  match c.callee, heap.object? c.callee with
  | _, some (.constructor k) => k
  | .function name, _ => { name }
  | _, _ => { name := "" }

/-- Makes an instance: the class may throw for the element, and otherwise makes its assignments
to the parameters. -/
def Class.construct (c : Class) (node : Nat) (params : Ref) :
    Action Page Call (Except String Instance) := do
  let number ← receive params
  let heap := (← Action.get).heap
  let k := c.constructor heap
  Action.call (.construct k.name node params (heap.text (.object params)) number)
  match k.throws.find? fun e => e.1 == node with
  | some (_, thrown) => return .error (heap.reason thrown)
  | none =>
    Action.modify fun page =>
      { page with
        heap := k.assigns.foldl (fun heap e => heap.assignPath (.object params) e.1 e.2) page.heap }
    return .ok ⟨node, params⟩

instance : Factory Class Page Call Nat Value Ref Instance where
  prepare _ params := do return .ok (← newParams params)
  create := Class.construct

end CreationLoader.Browser
