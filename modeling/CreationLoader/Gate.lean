import CreationLoader.Load

/-!
# Gates

A gate sees to it that a script is loaded once for each URL, however many ask for it. Who
asks while a load is under way, or after it has succeeded, joins that load. A load whose
failure has been delivered to somebody is replaced by a new one when the next asks.

Whoever waits holds on to the load it was given, and gets the outcome of that load.
-/

namespace CreationLoader.Gate
variable {η σ κ ν τ : Type} [Host η σ κ ν τ]

def start (gate : GateId) (host : η) (url : String) : Action (World σ τ) κ LoadId := do
  Action.report (.loadStarted url)
  let script ← World.onHosts (Host.loadScript host url)
  World.beginLoad (some gate) url script

/-- The load to wait for: the one that the gate keeps for the URL, or a new one if there is
none or if its failure has been delivered. -/
def ready (gate : GateId) (host : η) (url : String) : Action (World σ τ) κ LoadId := do
  let w ← Action.get
  match w.current? gate url with
  | none => start gate host url
  | some id =>
    match w.progress? id with
    | some (.delivered (.failed _)) =>
      Action.report (.loadRetried url)
      start gate host url
    | some (.delivered .loaded) => return id
    | _ =>
      Action.report (.loadJoined url)
      return id

/-- Whether a load for the URL has been delivered as a success. -/
def isLoaded (w : World σ τ) (gate : GateId) (url : String) : Bool :=
  ((w.current? gate url).bind w.progress?) == some (.delivered .loaded)

/-- Asks for the outcome of a load: nothing while it is open. The first to learn that a
gate's load has failed reports it. -/
def await (id : LoadId) : Action (World σ τ) κ (Option Outcome) := do
  let w ← Action.get
  match w.loads[id]? with
  | none => return none
  | some l =>
    match l.progress with
    | .pending => return none
    | .delivered outcome => return some outcome
    | .settled outcome =>
      Action.modify fun w => { w with loads := w.loads.modify id Load.deliver }
      match l.gate, outcome with
      | some _, .failed reason => Action.report (.loadFailed l.url reason)
      | _, _ => pure ()
      return some outcome

end CreationLoader.Gate
