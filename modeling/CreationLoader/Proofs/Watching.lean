import CreationLoader.Proofs.Steps

/-!
# What a loader asks of hosts and factories

A watched host answers as the host that it stands for, and so does a watched factory. What is
asked of them is recorded, in place of the calls and events of their own. So over watched hosts
the calls of a step are just what the loader asks for, and its events are the loader's own.
-/

namespace CreationLoader
variable {η σ κ ν τ φ α β ι ρ : Type}

/-- What can be asked of a host or of a factory. -/
inductive Request (η φ ν α β : Type)
  | hostname (host : η)
  | supportsShadowDom (host : η)
  | queryAll (host : η) (selector : String)
  | hasMatch (host : η) (selector : String)
  | loadScript (host : η) (url : String)
  | log (host : η) (line : String)
  | prepare (factory : φ) (params : Params α)
  | create (factory : φ) (node : ν) (args : β)

namespace Request

def line? : Request η φ ν α β → Option (η × String)
  | log host line => some (host, line)
  | _ => none

def prepared? : Request η φ ν α β → Option (φ × Params α)
  | prepare factory params => some (factory, params)
  | _ => none

end Request

structure WatchedHost (η φ : Type) where
  host : η

structure WatchedFactory (η φ : Type) where
  factory : φ

abbrev WatchedScene (η σ τ φ α : Type) := Scene (WatchedHost η φ) σ τ (WatchedFactory η φ) α

abbrev WatchedStep (η σ φ α : Type) := Scene.Step (WatchedHost η φ) σ (WatchedFactory η φ) α

/-- The same handle, with its host and factory watched. -/
def Handle.watched (h : Handle η φ α) : Handle (WatchedHost η φ) (WatchedFactory η φ) α :=
  ⟨h.id, ⟨⟨h.entry.factory⟩, h.entry.defaults⟩, ⟨h.host⟩, h.gate, h.polyfillUrl⟩

def Pending.watched (p : Pending η φ α) : Pending (WatchedHost η φ) (WatchedFactory η φ) α :=
  ⟨p.handle.watched, p.selector, p.params, p.load⟩

/-- Records a request. Of the action that meets it only the result and the state are kept. -/
def Action.meets (x : Action σ κ α) (request : ρ) : Action σ ρ α := fun s =>
  { value := (x s).value, state := (x s).state, calls := [request] }

instance [Host η σ κ ν τ] [Factory φ σ κ ν α β ι] :
    Host (WatchedHost η φ) σ (Request η φ ν α β) ν τ where
  hostname h := (Host.hostname h.host).meets (.hostname h.host)
  supportsShadowDom h := (Host.supportsShadowDom h.host).meets (.supportsShadowDom h.host)
  queryAll h selector := (Host.queryAll h.host selector).meets (.queryAll h.host selector)
  hasMatch h selector := (Host.hasMatch h.host selector).meets (.hasMatch h.host selector)
  loadScript h url := (Host.loadScript h.host url).meets (.loadScript h.host url)
  log h line := (Host.log h.host line).meets (.log h.host line)

instance [Host η σ κ ν τ] [Factory φ σ κ ν α β ι] :
    Factory (WatchedFactory η φ) σ (Request η φ ν α β) ν α β ι where
  prepare f params := (Factory.prepare f.factory params).meets (.prepare f.factory params)
  create f node args := (Factory.create f.factory node args).meets (.create f.factory node args)

section
variable [Host η σ κ ν τ] [Factory φ σ κ ν α β ι] (h : WatchedHost η φ) (s : σ)

@[simp] theorem watched_supportsShadowDom : Host.supportsShadowDom h s =
    { value := (Host.supportsShadowDom h.host s).value
      state := (Host.supportsShadowDom h.host s).state
      calls := [.supportsShadowDom h.host] } := rfl

@[simp] theorem watched_hasMatch (selector : String) : Host.hasMatch h selector s =
    { value := (Host.hasMatch h.host selector s).value
      state := (Host.hasMatch h.host selector s).state
      calls := [.hasMatch h.host selector] } := rfl

@[simp] theorem watched_log (line : String) : Host.log h line s =
    { value := (Host.log h.host line s).value, state := (Host.log h.host line s).state,
      calls := [.log h.host line] } := rfl

@[simp] theorem watched_hostname : Host.hostname h s =
    { value := (Host.hostname h.host s).value
      state := (Host.hostname h.host s).state
      calls := [.hostname h.host] } := rfl

@[simp] theorem watched_loadScript (url : String) : Host.loadScript h url s =
    { value := (Host.loadScript h.host url s).value
      state := (Host.loadScript h.host url s).state
      calls := [.loadScript h.host url] } := rfl

theorem abort_watched {e : LoaderError} {line : String} (hline : e.diagnostic = some line) :
    abort h e s =
      { value := e
        state := (Host.log h.host line s).state
        calls := [.log h.host line]
        events := [.aborted e] } := by
  simp [abort, hline]

end

end CreationLoader
