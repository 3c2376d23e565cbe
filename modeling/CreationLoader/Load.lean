import CreationLoader.Host

/-!
# Script loads

A record of every script load that was begun, oldest first. A load is open until its host
has settled it, and settled until somebody who waits for it has taken delivery of its
outcome. Nothing is ever removed from the record.
-/

namespace CreationLoader

/-- Gates are told apart by a name that was given to them, or are one loader's own. -/
inductive GateId
  | named (name : String)
  | own (number : Nat)
  deriving DecidableEq, Repr

inductive Progress
  | pending
  /-- The host has settled the load, and nobody has noticed. -/
  | settled (outcome : Outcome)
  | delivered (outcome : Outcome)
  deriving DecidableEq, Repr, Inhabited

/-- One load of a script. A load that no gate has begun has none. -/
structure Load (τ : Type) where
  gate : Option GateId
  url : String
  source : τ
  progress : Progress

namespace Load
variable {τ : Type}

def isFor (gate : GateId) (url : String) (l : Load τ) : Bool :=
  l.gate == some gate && l.url == url

def isOpen (l : Load τ) : Bool := l.progress == .pending

/-- Ends an open load. What is settled stays as it is. -/
def settle (outcome : Outcome) (l : Load τ) : Load τ :=
  if l.isOpen then { l with progress := .settled outcome } else l

/-- Notes that the outcome has been delivered. -/
def deliver (l : Load τ) : Load τ :=
  match l.progress with
  | .settled outcome => { l with progress := .delivered outcome }
  | _ => l

@[simp] theorem isFor_settle (gate : GateId) (url : String) (outcome : Outcome) (l : Load τ) :
    (l.settle outcome).isFor gate url = l.isFor gate url := by
  unfold settle
  split <;> rfl

@[simp] theorem isFor_deliver (gate : GateId) (url : String) (l : Load τ) :
    l.deliver.isFor gate url = l.isFor gate url := by
  unfold deliver
  split <;> rfl

theorem settle_of_not_isOpen {outcome : Outcome} {l : Load τ} (h : l.isOpen = false) :
    l.settle outcome = l := by simp [settle, h]

end Load

abbrev LoadId := Nat

/-- The state of hosts of type `σ`, and the record of loads. -/
structure World (σ τ : Type) where
  hosts : σ
  loads : List (Load τ) := []

namespace World
variable {σ τ κ α : Type}

/-- Does what concerns the hosts alone. -/
def onHosts (x : Action σ κ α) : Action (World σ τ) κ α :=
  x.onPart World.hosts fun w hosts => { w with hosts }

/-- The place of the last load that a gate has begun for a URL, counted from `start`. -/
def lastFor (gate : GateId) (url : String) : (start : Nat) → List (Load τ) → Option LoadId
  | _, [] => none
  | start, l :: rest =>
    (lastFor gate url (start + 1) rest).or (if l.isFor gate url then some start else none)

theorem lastFor_eq_none_iff (gate : GateId) (url : String) (start : Nat)
    (loads : List (Load τ)) :
    lastFor gate url start loads = none ↔ ∀ l ∈ loads, l.isFor gate url = false := by
  induction loads generalizing start with
  | nil => simp [lastFor]
  | cons l rest ih =>
    simp only [lastFor, Option.or_eq_none_iff, ih, List.forall_mem_cons]
    rw [and_comm]
    cases l.isFor gate url <;> simp

/-- A new load is the last for its gate and URL, and leaves the others as they were. -/
theorem lastFor_append (gate : GateId) (url : String) (start : Nat) (loads : List (Load τ))
    (l : Load τ) :
    lastFor gate url start (loads ++ [l]) =
      if l.isFor gate url then some (start + loads.length)
      else lastFor gate url start loads := by
  induction loads generalizing start with
  | nil => simp [lastFor]
  | cons m rest ih =>
    simp only [List.cons_append, lastFor, ih, List.length_cons]
    by_cases h : l.isFor gate url = true
    · simp [h, Nat.add_assoc, Nat.add_comm 1]
    · simp [h]

/-- The load that a gate keeps for a URL: the last it has begun. -/
def current? (w : World σ τ) (gate : GateId) (url : String) : Option LoadId :=
  lastFor gate url 0 w.loads

def progress? (w : World σ τ) (id : LoadId) : Option Progress := w.loads[id]?.map Load.progress

/-- Adds a load that a host has begun, and gives its place. -/
def beginLoad (gate : Option GateId) (url : String) (script : ScriptLoad τ) :
    Action (World σ τ) κ LoadId := do
  let progress := script.outcome.elim .pending .settled
  let w ← Action.get
  Action.modify fun w => { w with loads := w.loads ++ [⟨gate, url, script.source, progress⟩] }
  return w.loads.length

/-- Ends a load by its host's word. Nobody notices yet. -/
def settle (w : World σ τ) (id : LoadId) (outcome : Outcome) : World σ τ :=
  { w with loads := w.loads.modify id (Load.settle outcome) }

end World

end CreationLoader
