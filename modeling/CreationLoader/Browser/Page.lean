import CreationLoader.Host
import CreationLoader.Script.Text

/-!
# The page of a browser

A page as far as the loader touches it: the host name, the head and what its property
`attachShadow` is, the elements that selectors match, the script elements in the head, and the
objects that scripts hold.

Asking a page for something can fail: reading the host name, querying for a selector, creating
a script element and appending it may throw. A host name that cannot be read is empty, a
selector that is rejected matches nothing, and a script that cannot be appended is a load
that has failed from the start.
-/

namespace CreationLoader.Browser
open Script

structure Page where
  window : Bool := true
  document : Bool := true
  /-- The host name, unless reading it throws. -/
  hostname : Option String := some ""
  /-- The property `attachShadow` of the head, if the document has a head. -/
  head : Option Value := some .undefined
  nodes : List (String × List Nat) := []
  /-- What is thrown for selectors that are rejected. -/
  invalid : List (String × Value) := []
  /-- Whether a created script is no script element. -/
  foreignScripts : Bool := false
  createThrows : Option Value := none
  appendThrows : Option Value := none
  /-- The sources of the script elements in the head, in the order of their insertion. -/
  scripts : List String := []
  heap : Heap := []
  /-- The objects of parameters that constructors have received, in order. -/
  received : List Ref := []

/-- What is asked of a page. A constructor call tells the element, the object of parameters
with its text at that moment, and how many other such objects came before. -/
inductive Call
  | hostname
  | querySelector (selector : String)
  | querySelectorAll (selector : String)
  | createScript
  | appendScript (url : String)
  | log (line : String)
  | construct (name : String) (node : Nat) (params : Ref) (text : String) (number : Nat)
  deriving DecidableEq, Repr

structure Document where
  deriving DecidableEq, Repr

namespace Page

/-- The elements that match a selector, or what is thrown for it. -/
def select (p : Page) (selector : String) : Except Value (List Nat) :=
  match p.invalid.lookup selector with
  | some thrown => .error thrown
  | none => .ok ((p.nodes.lookup selector).getD [])

/-- Whether elements can have a native shadow root: a function in the head says so. -/
def supportsShadowDom (p : Page) : Bool := p.head.any p.heap.isFunction

end Page

def queryAll (selector : String) : Action Page Call (List Nat) := do
  Action.call (.querySelectorAll selector)
  let page ← Action.get
  match page.select selector with
  | .ok nodes => return nodes
  | .error thrown =>
    Action.report (.selectorRejected selector (page.heap.reason thrown))
    return []

def failedLoad (reason : String) : ScriptLoad (Option Nat) :=
  { source := none, outcome := some (.failed reason) }

/-- Appends a script element to the head. The load is open until the element has fired an
event. -/
def loadScript (url : String) : Action Page Call (ScriptLoad (Option Nat)) := do
  Action.call .createScript
  let page ← Action.get
  match page.createThrows with
  | some thrown => return failedLoad (page.heap.reason thrown)
  | none =>
    if page.foreignScripts then return failedLoad "Failed to cast to HtmlScriptElement"
    else if page.head.isNone then return failedLoad "Document has no head"
    else
      Action.call (.appendScript url)
      match page.appendThrows with
      | some thrown => return failedLoad (page.heap.reason thrown)
      | none =>
        Action.modify fun page => { page with scripts := page.scripts ++ [url] }
        return { source := some page.scripts.length }

instance : Host Document Page Call Nat (Option Nat) where
  hostname _ := do
    Action.call .hostname
    return (← Action.get).hostname.getD ""
  supportsShadowDom _ := do return (← Action.get).supportsShadowDom
  queryAll _ selector := queryAll selector
  hasMatch _ selector := do
    Action.call (.querySelector selector)
    match (← Action.get).select selector with
    | .ok nodes => return !nodes.isEmpty
    | .error _ => return false
  loadScript _ url := loadScript url
  log _ line := Action.call (.log line)

def Page.document? (p : Page) : Except String Document :=
  if !p.window then .error "No window available"
  else if !p.document then .error "Window has no document"
  else .ok {}

end CreationLoader.Browser
