import CreationLoader.Browser.Decode
import CreationLoader.Handle
import CreationLoader.Script.Tagged

/-!
# Sessions on a page

A session runs loaders on one page, whose scripts make loaders, create handles, bind creations
and wait for promises. All loaders of the page share one gate. Promises go on only when the
job queue is run; then each of them settles as soon as it can, in the order in which they
were made.
-/

namespace CreationLoader.Browser
open Script

def version : String := "0.1.0"

def pageGate : GateId := .named "page"

/-- What a promise waits for: a creation that is being bound, or the load of a script. -/
inductive Job
  | binding (pending : Pending Document Class Value)
  | load (id : LoadId)

inductive Settled
  | instances (made : List Instance)
  | loaded
  /-- Rejected with an error of that message. -/
  | failed (message : String)
  | rejected (reason : String)

structure Promise where
  name : String
  job : Job
  settled : Option Settled := none
  /-- Whether its settling has been told. -/
  told : Bool := false

/-- The state of a session. A name stands for what was last bound to it. -/
structure Session where
  world : World Page (Option Nat) := { hosts := {} }
  loaders : List (String × Loader Document Class Value) := []
  handles : List (String × Handle Document Class Value) := []
  promises : List Promise := []
  names : List (String × Value) := []

inductive Missing
  | name (name : String)
  | loader (name : String)
  | handle (name : String)
  | promise (name : String)
  | script (index : Nat)
  deriving DecidableEq, Repr

/-- Why a step was not done: something is missing, or an error was thrown to the script. -/
inductive Refusal
  | missing (what : Missing)
  | thrown (message : String)

/-- An instance as it is shown: the texts of its element and of its parameters, and the number
of the object that these are. -/
structure InstanceText where
  node : String
  params : String
  number : Nat

inductive PromiseState
  | pending
  | instances (made : List InstanceText)
  | fulfilled (text : String)
  | rejected (text : String)

inductive Answer
  | version (number : String)
  | scripts (count : Nat)
  | hostname (name : String)
  | shadow (is : Bool)
  | matched (is : Bool)
  | nodes (texts : List String)
  | done
  | promise
  | nothing
  | ids (ids : List String)
  | has (is : Bool)
  | handle (id : String)
  | settled (states : List (String × PromiseState))
  | state (state : PromiseState)
  | same (is : Option Bool)
  | called (is : Option Bool)
  | creations (creations : List (String × List (String × String)))
  | config (c : Config)
  | noParams
  | params (pairs : List (String × String)) (object : String)
  | refused (why : Refusal)

/-- What is to change about the page; the rest stays as it is. -/
structure PageChange where
  window : Option Bool := none
  document : Option Bool := none
  head : Option Bool := none
  attachShadow : Option Json.Value := none
  hostname : Option (Option String) := none
  nodes : List (String × List Nat) := []
  invalid : List (String × Json.Value) := []
  foreignScripts : Option Bool := none
  createThrows : Option (Option Json.Value) := none
  appendThrows : Option (Option Json.Value) := none

inductive HostStep
  | hostname
  | supportsShadowDom
  | hasMatch (selector : String)
  | queryAll (selector : String)
  | log (line : String)
  | loadScript (url name : String)

inductive Step
  | page (change : PageChange)
  | host (what : HostStep)
  | version
  | start
  | makeLoader (registry config : Option Json.Value) (name : String)
  | has (loader id : String)
  | create (loader id name : String)
  | makeHandle (registry config : Option Json.Value) (id name : String)
  | init (handle : String) (selector params : Option Json.Value) (name : String)
  | run
  | promise (name : String)
  | same (promise : String) (index : Nat) (param : String) (value : Option Json.Value)
  | fire (script : Nat) (event : String)
  | registry (value : Option Json.Value)
  | config (value : Option Json.Value)
  | params (value : Option Json.Value)
  | define (values : List Json.Value)

namespace Session

abbrev Run (α : Type) := Action Session Call α

def onWorld {α : Type} (x : Action (World Page (Option Nat)) Call α) : Run α :=
  x.onPart Session.world fun s world => { s with world }

def onPage {α : Type} (x : Action Page Call α) : Run α := onWorld (World.onHosts x)

def refuse (what : Missing) : Run Answer := return .refused (.missing what)

def throwToScript (message : String) : Run Answer := return .refused (.thrown message)

/-- Reads script values. If one has a name that is not known, nothing has been read. -/
def readAll : Scope → List (Option Json.Value) → Except String (List Value × Scope)
  | s, [] => .ok ([], s)
  | s, none :: rest => do
    let (values, s) ← readAll s rest
    .ok (.undefined :: values, s)
  | s, some v :: rest => do
    let (v, s) ← s.read v
    let (values, s) ← readAll s rest
    .ok (v :: values, s)

/-- Reads script values and goes on with them. What is not given is undefined. -/
def withValues (values : List (Option Json.Value)) (k : List Value → Run Answer) :
    Run Answer := do
  let s ← Action.get
  match readAll ⟨s.world.hosts.heap, s.names⟩ values with
  | .error name => refuse (.name name)
  | .ok (values, scope) =>
    Action.modify fun s =>
      { s with
        names := scope.names
        world := { s.world with hosts := { s.world.hosts with heap := scope.heap } } }
    k values

def withValue (value : Option Json.Value) (k : Value → Run Answer) : Run Answer :=
  withValues [value] fun values => k (values.headD .undefined)

def withLoader (name : String) (k : Loader Document Class Value → Run Answer) :
    Run Answer := do
  match (← Action.get).loaders.lookup name with
  | none => refuse (.loader name)
  | some l => k l

def withHandle (name : String) (k : Handle Document Class Value → Run Answer) :
    Run Answer := do
  match (← Action.get).handles.lookup name with
  | none => refuse (.handle name)
  | some h => k h

def promise? (s : Session) (name : String) : Option Promise :=
  s.promises.reverse.find? fun p => p.name == name

def withPromise (name : String) (k : Promise → Run Answer) : Run Answer := do
  match (← Action.get).promise? name with
  | none => refuse (.promise name)
  | some p => k p

def heap : Run Heap := return (← Action.get).world.hosts.heap

/-- Changes the page. The values that it needs stand in the order: the property of the head,
what creating throws, what appending throws, and what is thrown for selectors. -/
def changePage (c : PageChange) : Run Answer :=
  let given := [c.attachShadow, c.createThrows.join, c.appendThrows.join] ++
    c.invalid.map fun e => some e.2
  withValues given fun values => do
    let attachShadow := values.headD .undefined
    let createThrows := (values.drop 1).headD .undefined
    let appendThrows := (values.drop 2).headD .undefined
    let thrown := values.drop 3
    Action.modify fun s =>
      let p := s.world.hosts
      let head := match c.head with
        | some true => some .undefined
        | some false => none
        | none => p.head
      let page := { p with
        window := c.window.getD p.window
        document := c.document.getD p.document
        head := if c.attachShadow.isSome then head.map fun _ => attachShadow else head
        hostname := c.hostname.getD p.hostname
        nodes := Association.putAll c.nodes p.nodes
        invalid := Association.putAll ((c.invalid.map Prod.fst).zip thrown) p.invalid
        foreignScripts := c.foreignScripts.getD p.foreignScripts
        createThrows := (c.createThrows.map fun v => v.map fun _ => createThrows).getD
          p.createThrows
        appendThrows := (c.appendThrows.map fun v => v.map fun _ => appendThrows).getD
          p.appendThrows }
      { s with world := { s.world with hosts := page } }
    return .scripts (← Action.get).world.hosts.scripts.length

def promise (name : String) (job : Job) : Run Answer := do
  Action.modify fun s => { s with promises := s.promises ++ [{ name, job }] }
  return .promise

def withDocument (k : Document → Run Answer) : Run Answer := do
  match (← Action.get).world.hosts.document? with
  | .error message => throwToScript message
  | .ok d => k d

def askHost (what : HostStep) : Run Answer :=
  withDocument fun d => do
    match what with
    | .hostname => return .hostname (← onPage (Host.hostname d))
    | .supportsShadowDom => return .shadow (← onPage (Host.supportsShadowDom d))
    | .hasMatch selector => return .matched (← onPage (Host.hasMatch d selector))
    | .queryAll selector =>
      let nodes ← onPage (Host.queryAll d selector)
      let heap ← heap
      return .nodes (nodes.map fun n => heap.text (.element n))
    | .log line =>
      onPage (Host.log d line)
      return .done
    | .loadScript url name =>
      let script ← onPage (Host.loadScript d url)
      let load ← onWorld (World.beginLoad none url script)
      promise name (.load load)

def newLoader (realm : Realm Value) (registry config : Value) :
    Run (Except String (Loader Document Class Value)) := do
  match ← readRegistry realm Class.mk registry with
  | .error message => return .error message
  | .ok registry =>
    match readConfig (← heap) config with
    | .error message => return .error message
    | .ok config =>
      match (← Action.get).world.hosts.document? with
      | .error message => return .error message
      | .ok host => return .ok { registry, config, host, gate := pageGate }

def makeLoader (registry config : Option Json.Value) (name : String) : Run Answer :=
  withValues [registry, config] fun values => do
    let realm := (← heap).realm
    match ← newLoader realm (values.headD .undefined) ((values.drop 1).headD .undefined) with
    | .error message => throwToScript message
    | .ok l =>
      Action.modify fun s => { s with loaders := (name, l) :: s.loaders }
      return .ids l.registry.ids

/-- Creates a handle. The script is not told why it gets none. -/
def createHandle (l : Loader Document Class Value) (id name : String) : Run Answer := do
  match ← onPage (l.construct id) with
  | .error _ => return .nothing
  | .ok h =>
    Action.modify fun s => { s with handles := (name, h) :: s.handles }
    return .handle h.id

def makeHandle (registry config : Option Json.Value) (id name : String) : Run Answer :=
  withValues [registry, config] fun values => do
    let realm := (← heap).realm
    match ← newLoader realm (values.headD .undefined) ((values.drop 1).headD .undefined) with
    | .error message => throwToScript message
    | .ok l => createHandle l id name

/-- Begins to bind a creation. What is no selector, or matches nothing, gives no promise. What is
thrown when the properties of the parameters are listed is thrown to the script, before the page is
asked for anything. -/
def initHandle (realm : Realm Value) (h : Handle Document Class Value) (selector params : Value)
    (name : String) : Run Answer := do
  match realm.kind selector with
  | .string selector =>
    match paramsOf realm params with
    | .error thrown => throwToScript thrown
    | .ok overrides =>
      match ← onWorld (h.init selector overrides) with
      | .error _ => return .nothing
      | .ok pending => promise name (.binding pending)
  | _ =>
    Action.report (.selectorMissing h.id)
    return .nothing

def init (handle : String) (selector params : Option Json.Value) (name : String) :
    Run Answer :=
  withValues [selector, params] fun values =>
    withHandle handle fun h => do
      let heap ← heap
      initHandle heap.realm h (values.headD .undefined) ((values.drop 1).headD .undefined) name

def runJob : Job → Run (Option Settled)
  | .binding pending => do
    match ← onWorld pending.poll with
    | none => return none
    | some (.error e) => return some (.failed e.message)
    | some (.ok made) => return some (.instances made)
  | .load id => do
    match ← onWorld (Gate.await id) with
    | none => return none
    | some (.failed reason) => return some (.rejected reason)
    | some .loaded => return some .loaded

/-- Goes on with the promises that have not settled, in order. -/
def runJobs : List Promise → Run (List Promise)
  | [] => return []
  | p :: rest => do
    let p ← match p.settled with
      | some _ => pure p
      | none => pure { p with settled := ← runJob p.job }
    return p :: (← runJobs rest)

def instanceText (page : Page) (i : Instance) : InstanceText where
  node := page.heap.text (.element i.node)
  params := page.heap.text (.object i.params)
  number := (page.received.findIdx? (· == i.params)).getD page.received.length

def promiseState (page : Page) (p : Promise) : PromiseState :=
  match p.settled with
  | none => .pending
  | some (.instances made) => .instances (made.map (instanceText page))
  | some .loaded => .fulfilled (page.heap.text .undefined)
  | some (.failed message) => .rejected (tagged "error" (quoted message))
  | some (.rejected reason) => .rejected (quoted reason)

/-- Runs the job queue, and tells which promises have settled that were not told before. -/
def run : Run Answer := do
  let promises ← runJobs (← Action.get).promises
  let page := (← Action.get).world.hosts
  Action.modify fun s =>
    { s with promises := promises.map fun p => { p with told := p.settled.isSome } }
  let news := promises.filter fun p => p.settled.isSome && !p.told
  return .settled (news.map fun p => (p.name, promiseState page p))

def same (promise : String) (index : Nat) (param : String) (value : Option Json.Value) :
    Run Answer :=
  withValue value fun v => withPromise promise fun p => do
    let heap ← heap
    match p.settled with
    | some (.instances made) =>
      match made[index]? with
      | none => return .same none
      | some i =>
        if heap.hasProperty (.object i.params) param then
          return .same (some ((heap.property (.object i.params) param).identical v))
        else return .same none
    | _ => return .same none

/-- A script element fires an event. Its handlers are dropped when the outcome of its load has
been delivered, and only the first event counts. -/
def fire (script : Nat) (event : String) : Run Answer := do
  let s ← Action.get
  if script < s.world.hosts.scripts.length then
    match s.world.loads.findIdx? fun l => l.source == some script with
    | none => return .called none
    | some id =>
      let outcome? : Option Outcome := match s.world.loads[id]? with
        | none => none
        | some l =>
          if event = "onload" then some .loaded
          else if event = "onerror" then some (.failed (l.url ++ " did not load"))
          else none
      match outcome?, s.world.progress? id with
      | none, _ => return .called none
      | some _, some (.delivered _) => return .called (some false)
      | some outcome, _ =>
        Action.modify fun s => { s with world := s.world.settle id outcome }
        return .called (some true)
  else refuse (.script script)

def texts (heap : Heap) (entries : List (String × Value)) : List (String × String) :=
  entries.map fun e => (e.1, heap.text e.2)

/-- What a registry holds that a script hands over. -/
def showRegistry (value : Option Json.Value) : Run Answer :=
  withValue value fun v => do
    let heap ← heap
    match ← readRegistry heap.realm Class.mk v with
    | .error message => throwToScript message
    | .ok r => return .creations (r.entries.map fun e => (e.1, texts heap e.2.defaults.entries))

def showConfig (value : Option Json.Value) : Run Answer :=
  withValue value fun v => do
    match readConfig (← heap) v with
    | .error message => throwToScript message
    | .ok c => return .config c

/-- What parameters a script hands over, and the object that a class would receive. -/
def showParams (value : Option Json.Value) : Run Answer :=
  withValue value fun v => do
    match paramsOf (← heap).realm v with
    | .error thrown => throwToScript thrown
    | .ok none => return .noParams
    | .ok (some p) =>
      let ref ← onPage (newParams p)
      let heap ← heap
      return .params (texts heap p.entries) (heap.text (.object ref))

def step : Step → Run Answer
  | .page change => changePage change
  | .host what => askHost what
  | .version => return .version CreationLoader.Browser.version
  | .start => return .done
  | .makeLoader registry config name => makeLoader registry config name
  | .has loader id => withLoader loader fun l => return .has (l.registry.contains id)
  | .create loader id name => withLoader loader fun l => createHandle l id name
  | .makeHandle registry config id name => makeHandle registry config id name
  | .init handle selector params name => init handle selector params name
  | .run => run
  | .promise name => withPromise name fun p => do
    return .state (promiseState (← Action.get).world.hosts p)
  | .same promise index param value => same promise index param value
  | .fire script event => fire script event
  | .registry value => showRegistry value
  | .config value => showConfig value
  | .params value => showParams value
  | .define values => withValues (values.map some) fun _ => return .done

end Session

end CreationLoader.Browser
