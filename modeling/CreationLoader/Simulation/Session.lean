import CreationLoader.Config.Json
import CreationLoader.Params.Source
import CreationLoader.Scene
import CreationLoader.Simulation.Host

/-!
# Sessions

A session is a scene over simulated hosts, one step after the other. Hosts, loaders, handles
and what is being waited for have names; a step names what it works on, gives an answer, and
tells what was asked of hosts and factories and which events were reported. A step that cannot
be done says why and changes nothing.
-/

namespace CreationLoader.Simulation

abbrev Session := Scene HostRef Hosts HostRef Factory Json.Value

instance : EmptyCollection Session := ⟨{ world := { hosts := [] } }⟩

inductive Missing
  | host (name : String)
  | loader (name : String)
  | handle (name : String)
  | future (name : String)
  | load (index : Nat)
  deriving DecidableEq, Repr

inductive Refusal
  | missing (what : Missing)
  | text (e : Json.Error)
  | config (e : Json.Error)
  | registry (e : RegistryError)
  | loader (e : LoaderError)

abbrev Polled := CreationLoader.Polled Instance

inductive Answer
  | openLoads (count : Nat)
  | loader (ids : List String) (config : Config)
  | loaderDropped (was : Bool)
  | handle (id : String) (defaults : Params Json.Value)
  | contents (creations : List (String × Params Json.Value)) (hostname : String) (config : Config)
  | started
  | loaded (is : Bool)
  | polled (outcome : Polled)
  | polledAll (outcomes : List (String × Polled))
  | futuresDropped (count : Nat)
  | refused (why : Refusal)

structure Creation where
  id : String
  defaults : Params.Source
  factory : Factory

structure HostChange where
  hostname : Option String := none
  shadowDom : Option Bool := none
  nodes : List (String × List Nat) := []
  scripts : Option Scripts := none

inductive Step
  | host (name : String) (change : HostChange)
  | loader (name host : String) (creations : List Creation) (config gate : Option String)
  | dropLoader (name : String)
  | construct (loader id name : String)
  | clone (handle name : String)
  | handle (name : String)
  | contents (loader : String)
  | init (handle selector : String) (overrides : Option Params.Source) (name : String)
  | ready (gate host url name : String)
  | isLoaded (gate url : String)
  | finish (host : String) (index : Nat) (outcome : Outcome)
  | poll (future : String)
  | pollAll
  | drop (future : String)

def Page.change (p : Page) (c : HostChange) : Page where
  hostname := c.hostname.getD p.hostname
  shadowDom := c.shadowDom.getD p.shadowDom
  nodes := Association.putAll c.nodes p.nodes
  scripts := c.scripts.getD p.scripts

namespace Session

abbrev Run (α : Type) := Action Session Call α

/-- The loads of a host that are open, oldest first. -/
def openLoads (s : Session) (host : HostRef) : List LoadId :=
  (s.world.loads.zipIdx.filter fun e => e.1.source == host && e.1.isOpen).map Prod.snd

def hasHost (s : Session) (name : String) : Bool :=
  (Association.find? name s.world.hosts).isSome

def refuse (what : Missing) : Run Answer := return .refused (.missing what)

def setHost (name : String) (change : HostChange) : Run Answer := do
  let change (hosts : Hosts) : Hosts :=
    Association.put name (((HostRef.mk name).page hosts).change change) hosts
  let _ ← Scene.step (.hosts change)
  return .openLoads ((← Action.get).openLoads ⟨name⟩).length

/-- Registers creations in order, up to the first that is refused. -/
def registerAll (r : Registry Factory Json.Value) :
    List Creation → Run (Except Refusal (Registry Factory Json.Value))
  | [] => return .ok r
  | c :: rest => do
    match c.defaults.read with
    | .error e => return .error (.text e)
    | .ok defaults =>
      match ← r.registerReporting c.id c.factory defaults with
      | .error e => return .error (.registry e)
      | .ok r => registerAll r rest

/-- Makes a loader. Its gate is the named one, or else its own. -/
def setLoader (name host : String) (creations : List Creation) (config gate : Option String) :
    Run Answer := do
  match ← registerAll ∅ creations with
  | .error e => return .refused e
  | .ok registry =>
    match (config.map Config.parse).getD (.ok {}) with
    | .error e => return .refused (.config e)
    | .ok config =>
      if (← Action.get).hasHost host then
        Scene.addLoader name registry config ⟨host⟩ gate
        return .loader registry.ids config
      else refuse (.host host)

/-- Forgets a loader. Handles that it has constructed stay. -/
def dropLoader (name : String) : Run Answer := do
  let was := ((← Action.get).loaders.any fun e => e.1 == name)
  Scene.dropLoader name
  return .loaderDropped was

def handleAnswer (h : Handle HostRef Factory Json.Value) : Answer :=
  .handle h.id h.entry.defaults

def construct (loader id name : String) : Run Answer := do
  match ← Scene.construct loader id name with
  | none => refuse (.loader loader)
  | some (.error e) => return .refused (.loader e)
  | some (.ok h) => return handleAnswer h

def clone (handle name : String) : Run Answer := do
  match ← Scene.clone handle name with
  | none => refuse (.handle handle)
  | some h => return handleAnswer h

def handle (name : String) : Run Answer := do
  match (← Action.get).handles.lookup name with
  | none => refuse (.handle name)
  | some h => return handleAnswer h

def contents (loader : String) : Run Answer := do
  let s ← Action.get
  match s.loaders.lookup loader with
  | none => refuse (.loader loader)
  | some l =>
    let creations := l.registry.entries.map fun e => (e.1, e.2.defaults)
    return .contents creations (l.host.page s.world.hosts).hostname l.config

def init (handle selector : String) (overrides : Option Params.Source) (name : String) :
    Run Answer := do
  match overrides.mapM Params.Source.read with
  | .error e => return .refused (.text e)
  | .ok overrides =>
    match ← Scene.init handle selector overrides name with
    | none => refuse (.handle handle)
    | some (.error e) => return .refused (.loader e)
    | some (.ok _) => return .started

def ready (gate host url name : String) : Run Answer := do
  if (← Action.get).hasHost host then
    Scene.ready (.named gate) (HostRef.mk host) url name
    return .started
  else refuse (.host host)

/-- Tells how one of the open loads of a host ended. -/
def finish (host : String) (index : Nat) (outcome : Outcome) : Run Answer := do
  let s ← Action.get
  if s.hasHost host then
    match (s.openLoads ⟨host⟩)[index]? with
    | none => refuse (.load index)
    | some load =>
      let _ ← Scene.step (.settle load outcome)
      return .openLoads ((← Action.get).openLoads ⟨host⟩).length
  else refuse (.host host)

/-- Asks for the oldest future of a name. It is dropped when it has come. -/
def poll (name : String) : Run Answer := do
  match (← Action.get).futures.findIdx? fun e => e.1 == name with
  | none => refuse (.future name)
  | some place =>
    match ← Scene.poll place with
    | none => refuse (.future name)
    | some outcome => return .polled outcome

/-- Asks for so many futures in order, from a place on. One that has come makes room for the
next. -/
def pollFrom : (count place : Nat) → Run (List (String × Polled))
  | 0, _ => return []
  | count + 1, place => do
    match (← Action.get).futures[place]? with
    | none => return []
    | some (name, _) =>
      match ← Scene.poll place with
      | none => return []
      | some outcome =>
        let rest ← pollFrom count (if outcome.isPending then place + 1 else place)
        return (name, outcome) :: rest

/-- Asks for all futures, from the oldest on. -/
def pollAll : Run Answer := do
  return .polledAll (← pollFrom (← Action.get).futures.length 0)

def dropEach : List Nat → Run Unit
  | [] => return ()
  | place :: rest => do
    Scene.drop place
    dropEach rest

/-- Gives up waiting for all futures of a name, the last of them first. -/
def drop (name : String) : Run Answer := do
  let named := (← Action.get).futures.zipIdx.filter fun e => e.1.1 == name
  dropEach (named.map Prod.snd).reverse
  return .futuresDropped named.length

def step : Step → Run Answer
  | .host name change => setHost name change
  | .loader name host creations config gate => setLoader name host creations config gate
  | .dropLoader name => dropLoader name
  | .construct loader id name => construct loader id name
  | .clone handle name => clone handle name
  | .handle name => handle name
  | .contents loader => contents loader
  | .init handle selector overrides name => init handle selector overrides name
  | .ready gate host url name => ready gate host url name
  | .isLoaded gate url => do return .loaded (Gate.isLoaded (← Action.get).world (.named gate) url)
  | .finish host index outcome => finish host index outcome
  | .poll future => poll future
  | .pollAll => pollAll
  | .drop future => drop future

end Session

end CreationLoader.Simulation
