import CreationLoader.Handle

/-!
# Scenes

A scene is what lives over some hosts at one time: loaders, the handles that they have
constructed, and what is being waited for. It goes on in steps, one after the other and in any
order. Between the steps hosts may change by themselves, and they end the loads of scripts
when they like.
-/

namespace CreationLoader
variable {η σ κ ν τ φ α β ι : Type}

/-- What is being waited for: a creation that is being bound, or a gate's load. -/
inductive Future (η φ α : Type)
  | binding (pending : Pending η φ α)
  | ready (url : String) (load : LoadId)

/-- What comes of waiting: nothing yet, or the instances, or a load that is there. -/
inductive Polled (ι : Type)
  | pending
  | instances (made : List ι)
  | ready
  | failed (e : LoaderError)

def Polled.isPending : Polled ι → Bool
  | .pending => true
  | _ => false

namespace Future

/-- The load that is waited for. What is bound natively waits for none. -/
def load? : Future η φ α → Option LoadId
  | binding pending => pending.load
  | ready _ load => some load

def url : Future η φ α → String
  | binding pending => pending.handle.polyfillUrl
  | ready url _ => url

/-- Asks whether something that is being waited for has come. -/
def poll [Host η σ κ ν τ] [Factory φ σ κ ν α β ι] :
    Future η φ α → Action (World σ τ) κ (Polled ι)
  | binding pending => do
    match ← pending.poll with
    | none => return .pending
    | some (.error e) => return .failed e
    | some (.ok made) => return .instances made
  | ready url load => do
    match ← Gate.await load with
    | none => return .pending
    | some (.failed reason) => return .failed (.polyfillFailed url reason)
    | some .loaded => return .ready

end Future

/-- What lives over hosts with states of type `σ`. A name stands for what was last bound to it;
what is being waited for is listed from the oldest on, and several may have one name. -/
structure Scene (η σ τ φ α : Type) where
  world : World σ τ
  loaders : List (String × Loader η φ α) := []
  handles : List (String × Handle η φ α) := []
  futures : List (String × Future η φ α) := []
  ownGates : Nat := 0

namespace Scene

inductive Step (η σ φ α : Type)
  /-- The hosts change by themselves. -/
  | hosts (change : σ → σ)
  | loader (name : String) (registry : Registry φ α) (config : Config) (host : η)
      (gate : Option String)
  | dropLoader (name : String)
  | construct (loader id name : String)
  | clone (handle name : String)
  | init (handle selector : String) (overrides : Option (Params α)) (name : String)
  | ready (gate : GateId) (host : η) (url name : String)
  | isLoaded (gate : GateId) (url : String)
  /-- A host ends a load. -/
  | settle (load : LoadId) (outcome : Outcome)
  | poll (place : Nat)
  | drop (place : Nat)

inductive Answer (η φ α ι : Type)
  | done
  /-- The step names something that is not there. -/
  | absent
  | handle (h : Handle η φ α)
  | loaded (is : Bool)
  | polled (outcome : Polled ι)
  | failed (e : LoaderError)

/-- Does what concerns hosts and loads. -/
def onWorld {ρ : Type} (x : Action (World σ τ) κ ρ) : Action (Scene η σ τ φ α) κ ρ :=
  x.onPart Scene.world fun s world => { s with world }

/-- Makes a loader. Its gate is the named one, or else its own. -/
def addLoader (name : String) (registry : Registry φ α) (config : Config) (host : η)
    (gate : Option String) : Action (Scene η σ τ φ α) κ Unit :=
  Action.modify fun s =>
    let loader := ⟨registry, config, host, gate.elim (.own s.ownGates) .named⟩
    { s with loaders := (name, loader) :: s.loaders, ownGates := s.ownGates + 1 }

/-- Forgets the loaders of a name. Handles that they have constructed stay. -/
def dropLoader (name : String) : Action (Scene η σ τ φ α) κ Unit :=
  Action.modify fun s => { s with loaders := s.loaders.filter fun e => e.1 != name }

def setHandle (name : String) (h : Handle η φ α) : Action (Scene η σ τ φ α) κ Unit :=
  Action.modify fun s => { s with handles := (name, h) :: s.handles }

def construct [Host η σ κ ν τ] (loader id name : String) :
    Action (Scene η σ τ φ α) κ (Option (Except LoaderError (Handle η φ α))) := do
  match (← Action.get).loaders.lookup loader with
  | none => return none
  | some l =>
    match ← onWorld (World.onHosts (l.construct id)) with
    | .error e => return some (.error e)
    | .ok h =>
      setHandle name h
      return some (.ok h)

def clone (handle name : String) : Action (Scene η σ τ φ α) κ (Option (Handle η φ α)) := do
  match (← Action.get).handles.lookup handle with
  | none => return none
  | some h =>
    setHandle name h
    return some h

def wait (name : String) (f : Future η φ α) : Action (Scene η σ τ φ α) κ Unit :=
  Action.modify fun s => { s with futures := s.futures ++ [(name, f)] }

def init [Host η σ κ ν τ] (handle selector : String) (overrides : Option (Params α))
    (name : String) : Action (Scene η σ τ φ α) κ (Option (Except LoaderError Unit)) := do
  match (← Action.get).handles.lookup handle with
  | none => return none
  | some h =>
    match ← onWorld (h.init selector overrides) with
    | .error e => return some (.error e)
    | .ok pending =>
      wait name (.binding pending)
      return some (.ok ())

def ready [Host η σ κ ν τ] (gate : GateId) (host : η) (url name : String) :
    Action (Scene η σ τ φ α) κ Unit := do
  let load ← onWorld (Gate.ready gate host url)
  wait name (.ready url load)

/-- Asks for the future at a place, if there is one. It is dropped when it has come. -/
def poll [Host η σ κ ν τ] [Factory φ σ κ ν α β ι] (place : Nat) :
    Action (Scene η σ τ φ α) κ (Option (Polled ι)) := do
  match (← Action.get).futures[place]? with
  | none => return none
  | some (_, f) =>
    let outcome ← onWorld f.poll
    if !outcome.isPending then
      Action.modify fun s => { s with futures := s.futures.eraseIdx place }
    return some outcome

/-- Gives up waiting for the future at a place. Its load goes on. -/
def drop (place : Nat) : Action (Scene η σ τ φ α) κ Unit :=
  Action.modify fun s => { s with futures := s.futures.eraseIdx place }

def step [Host η σ κ ν τ] [Factory φ σ κ ν α β ι] :
    Step η σ φ α → Action (Scene η σ τ φ α) κ (Answer η φ α ι)
  | .hosts change => do
    onWorld (World.onHosts (Action.modify change))
    return .done
  | .loader name registry config host gate => do
    addLoader name registry config host gate
    return .done
  | .dropLoader name => do
    dropLoader name
    return .done
  | .construct loader id name => do
    match ← construct loader id name with
    | none => return .absent
    | some (.error e) => return .failed e
    | some (.ok h) => return .handle h
  | .clone handle name => do return (← clone handle name).elim .absent .handle
  | .init handle selector overrides name => do
    match ← init handle selector overrides name with
    | none => return .absent
    | some (.error e) => return .failed e
    | some (.ok _) => return .done
  | .ready gate host url name => do
    ready gate host url name
    return .done
  | .isLoaded gate url => do return .loaded (Gate.isLoaded (← Action.get).world gate url)
  | .settle load outcome => do
    onWorld (Action.modify fun w => w.settle load outcome)
    return .done
  | .poll place => do return (← poll place).elim .absent .polled
  | .drop place => do
    drop place
    return .done

def run [Host η σ κ ν τ] [Factory φ σ κ ν α β ι] :
    List (Step η σ φ α) → Action (Scene η σ τ φ α) κ (List (Answer η φ α ι))
  | [] => return []
  | x :: rest => do
    let answer ← step x
    return answer :: (← run rest)

end Scene

end CreationLoader
