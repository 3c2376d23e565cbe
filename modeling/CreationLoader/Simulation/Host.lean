import CreationLoader.Handle

/-!
# Simulated hosts

Hosts whose pages are given as data, so that what a loader does can be followed step by
step. A simulated host answers from its page and records what it was asked. It leaves the
scripts it begins to load open until it is told how they ended, or settles them at once.
-/

namespace CreationLoader.Simulation

structure HostRef where
  name : String
  deriving DecidableEq, Repr

/-- What becomes of the scripts that a host begins to load. -/
inductive Scripts
  | manual
  | settled (outcome : Outcome)
  deriving DecidableEq, Repr

structure Page where
  hostname : String := ""
  shadowDom : Bool := true
  nodes : List (String × List Nat) := []
  scripts : Scripts := .manual
  deriving DecidableEq, Repr

def Page.matching (p : Page) (selector : String) : List Nat :=
  (Association.find? selector p.nodes).getD []

abbrev Hosts := List (String × Page)

def HostRef.page (h : HostRef) (hosts : Hosts) : Page :=
  (Association.find? h.name hosts).getD {}

/-- What was asked of a host or of a factory. -/
inductive Call
  | hostname (host : HostRef)
  | supportsShadowDom (host : HostRef)
  | queryAll (host : HostRef) (selector : String)
  | loadScript (host : HostRef) (url : String)
  | log (host : HostRef) (line : String)
  | prepare (params : Params Json.Value)
  | create (node : Nat)

namespace HostRef

/-- Asks a host something that it answers from its page. -/
def ask {α : Type} (h : HostRef) (c : Call) (answer : Page → α) : Action Hosts Call α := do
  Action.call c
  return answer (h.page (← Action.get))

end HostRef

/-- Whether there is a match is found out by looking all elements up. -/
instance : Host HostRef Hosts Call Nat HostRef where
  hostname h := h.ask (.hostname h) Page.hostname
  supportsShadowDom h := h.ask (.supportsShadowDom h) Page.shadowDom
  queryAll h selector := h.ask (.queryAll h selector) (·.matching selector)
  hasMatch h selector := h.ask (.queryAll h selector) fun page => !(page.matching selector).isEmpty
  loadScript h url := h.ask (.loadScript h url) fun page =>
    match page.scripts with
    | .manual => { source := h }
    | .settled outcome => { source := h, outcome := some outcome }
  log h line := Action.call (.log h line)

structure Instance where
  id : String
  node : Nat
  params : Params Json.Value

/-- A simulated factory is a pair of functions. One that only makes instances, and takes the
merged parameters as they are, does not record that it prepares them. -/
structure Factory where
  prepares : Bool := true
  prepare : Params Json.Value → Except String (Params Json.Value)
  create : Nat → Params Json.Value → Except String Instance

instance :
    CreationLoader.Factory Factory Hosts Call Nat Json.Value (Params Json.Value) Instance where
  prepare f params := do
    if f.prepares then Action.call (.prepare params)
    return f.prepare params
  create f node params := do
    Action.call (.create node)
    return f.create node params

namespace Factory

/-- Makes instances that show what they were made of, but not for the elements listed, each
with the reason why. -/
def makeExcept (id : String) (failing : List (Nat × String)) (node : Nat)
    (params : Params Json.Value) : Except String Instance :=
  match failing.find? fun f => f.1 == node with
  | some f => .error f.2
  | none => .ok ⟨id, node, params⟩

/-- A factory that may need a parameter of some name. -/
def preparing (id : String) (failing : List (Nat × String)) (needs : Option String) : Factory where
  prepare params :=
    match needs with
    | some name => if params.contains name then .ok params else .error ("missing " ++ name)
    | none => .ok params
  create := makeExcept id failing

def closure (id : String) (failing : List (Nat × String)) : Factory where
  prepares := false
  prepare := .ok
  create := makeExcept id failing

end Factory

end CreationLoader.Simulation
