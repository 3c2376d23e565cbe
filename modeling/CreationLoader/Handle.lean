import CreationLoader.Config
import CreationLoader.Gate
import CreationLoader.Registry

/-!
# Loaders and handles

A loader joins a registry, a configuration, a host and a gate. It constructs handles for
registered creations, if the configuration allows the host. A handle binds its creation to
the elements that match a selector: at once where the host supports shadow DOM, and
otherwise when the polyfill has been loaded.
-/

namespace CreationLoader

structure Loader (η φ α : Type) where
  registry : Registry φ α
  config : Config := {}
  host : η
  gate : GateId

/-- A creation that is ready to be bound to elements. It holds all it needs, and outlives its
loader. -/
structure Handle (η φ α : Type) where
  id : String
  entry : Entry φ α
  host : η
  gate : GateId
  polyfillUrl : String

/-- A creation that is being bound: the elements are looked up and the instances are made when
the load it waits for, if any, has succeeded. The parameters are those merged at the call. -/
structure Pending (η φ α : Type) where
  handle : Handle η φ α
  selector : String
  params : Params α
  load : Option LoadId

section
variable {η σ κ ν τ φ α β ι : Type} [Host η σ κ ν τ]

/-- Reports an error that aborts a call, and writes its line to the console of the host. -/
def abort (host : η) (e : LoaderError) : Action σ κ LoaderError := do
  Action.report (.aborted e)
  match e.diagnostic with
  | some line => Host.log host line
  | none => pure ()
  return e

/-- Constructs a handle. The host has to be allowed and the id registered, in this order. -/
def Loader.construct (l : Loader η φ α) (id : String) :
    Action σ κ (Except LoaderError (Handle η φ α)) := do
  let hostname ← Host.hostname l.host
  if l.config.allowedDomains.permits hostname then
    match l.registry.get? id with
    | none => return .error (← abort l.host (.unknownCreation id))
    | some entry =>
      Action.report (.constructed id)
      return .ok ⟨id, entry, l.host, l.gate, l.config.polyfillUrl⟩
  else return .error (← abort l.host (.domainRestricted hostname))

/-- The parameters for one call: the defaults, with the overrides if there are any. -/
def Handle.mergeParams (h : Handle η φ α) (overrides : Option (Params α)) : Params.Merge α :=
  match overrides with
  | none => { params := h.entry.defaults }
  | some overrides => h.entry.defaults.merge overrides

/-- Begins to bind a creation to the elements that match a selector. If none does, nothing is
begun; if shadow DOM is not supported, the polyfill is asked for. -/
def Handle.init (h : Handle η φ α) (selector : String) (overrides : Option (Params α)) :
    Action (World σ τ) κ (Except LoaderError (Pending η φ α)) := do
  if ← World.onHosts (Host.hasMatch h.host selector) then
    let merged := h.mergeParams overrides
    Action.reportAll (merged.ignored.map .overrideIgnored)
    if ← World.onHosts (Host.supportsShadowDom h.host) then
      return .ok ⟨h, selector, merged.params, none⟩
    else
      let load ← Gate.ready h.gate h.host h.polyfillUrl
      return .ok ⟨h, selector, merged.params, some load⟩
  else return .error (← World.onHosts (abort h.host (.targetNotFound selector)))

variable [Factory φ σ κ ν α β ι]

def creationFailure (id reason : String) : Action σ κ LoaderError := do
  Action.report (.creationFailed id reason)
  return .instantiationFailed id reason

/-- Makes the instances for elements, in order, up to the first that cannot be made. -/
def createAll (factory : φ) (id : String) (args : β) :
    List ν → Action σ κ (Except LoaderError (List ι))
  | [] => return .ok []
  | node :: nodes => do
    match ← Factory.create factory node args with
    | .error reason => return .error (← creationFailure id reason)
    | .ok made =>
      match ← createAll factory id args nodes with
      | .error e => return .error e
      | .ok instances => return .ok (made :: instances)

/-- Looks the elements up, prepares the parameters once, and makes one instance for each
element. -/
def Pending.instantiate (p : Pending η φ α) : Action σ κ (Except LoaderError (List ι)) := do
  let nodes ← Host.queryAll p.handle.host p.selector
  Action.report (.instantiating p.handle.id p.selector nodes.length)
  match ← Factory.prepare p.handle.entry.factory p.params with
  | .error reason => return .error (← creationFailure p.handle.id reason)
  | .ok args => createAll p.handle.entry.factory p.handle.id args nodes

/-- Goes on with a creation that is being bound: nothing comes of it while its load is open. -/
def Pending.poll (p : Pending η φ α) :
    Action (World σ τ) κ (Option (Except LoaderError (List ι))) := do
  match p.load with
  | none => return some (← World.onHosts p.instantiate)
  | some load =>
    match ← Gate.await load with
    | none => return none
    | some (.failed reason) => return some (.error (.polyfillFailed p.handle.polyfillUrl reason))
    | some .loaded => return some (← World.onHosts p.instantiate)

end

end CreationLoader
