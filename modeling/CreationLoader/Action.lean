import CreationLoader.Event

/-!
# Actions

What the loader does has a result, changes a state, asks hosts and factories for something,
and reports events. An action gives all four. Actions are put in sequence: the second starts
from the state the first has left, and what it asks and reports comes behind.
-/

namespace CreationLoader

/-- The outcome of an action: its result, the state it leaves, the calls it has made and the
events it has reported, both in order. -/
structure Effect (σ κ α : Type) where
  value : α
  state : σ
  calls : List κ := []
  events : List Event := []

/-- Something done from a state of type `σ`, by calls of type `κ`. -/
def Action (σ κ α : Type) := σ → Effect σ κ α

namespace Action
variable {σ ρ κ α β : Type}

protected def pure (a : α) : Action σ κ α := fun s => { value := a, state := s }

protected def bind (x : Action σ κ α) (f : α → Action σ κ β) : Action σ κ β := fun s =>
  let first := x s
  let second := f first.value first.state
  { value := second.value
    state := second.state
    calls := first.calls ++ second.calls
    events := first.events ++ second.events }

instance : Monad (Action σ κ) where
  pure := Action.pure
  bind := Action.bind

def get : Action σ κ σ := fun s => { value := s, state := s }

def modify (f : σ → σ) : Action σ κ Unit := fun s => { value := (), state := f s }

def call (c : κ) : Action σ κ Unit := fun s => { value := (), state := s, calls := [c] }

def report (e : Event) : Action σ κ Unit := fun s => { value := (), state := s, events := [e] }

def reportAll (es : List Event) : Action σ κ Unit := fun s =>
  { value := (), state := s, events := es }

/-- Does an action on a part of a larger state, of which the rest stays as it is. -/
def onPart (part : ρ → σ) (replace : ρ → σ → ρ) (x : Action σ κ α) : Action ρ κ α := fun r =>
  let e := x (part r)
  { value := e.value, state := replace r e.state, calls := e.calls, events := e.events }

@[simp] theorem pure_apply (a : α) (s : σ) :
    (pure a : Action σ κ α) s = { value := a, state := s } := rfl

@[simp] theorem bind_apply (x : Action σ κ α) (f : α → Action σ κ β) (s : σ) :
    (x >>= f) s =
      { value := (f (x s).value (x s).state).value
        state := (f (x s).value (x s).state).state
        calls := (x s).calls ++ (f (x s).value (x s).state).calls
        events := (x s).events ++ (f (x s).value (x s).state).events } := rfl

@[simp] theorem map_apply (f : α → β) (x : Action σ κ α) (s : σ) :
    (f <$> x) s =
      { value := f (x s).value
        state := (x s).state
        calls := (x s).calls
        events := (x s).events } := by
  change Action.bind x (Action.pure ∘ f) s = _
  simp [Action.bind, Action.pure]

@[simp] theorem get_apply (s : σ) : (get : Action σ κ σ) s = { value := s, state := s } := rfl

@[simp] theorem modify_apply (f : σ → σ) (s : σ) :
    (modify f : Action σ κ Unit) s = { value := (), state := f s } := rfl

@[simp] theorem call_apply (c : κ) (s : σ) :
    (call c : Action σ κ Unit) s = { value := (), state := s, calls := [c] } := rfl

@[simp] theorem report_apply (e : Event) (s : σ) :
    (report e : Action σ κ Unit) s = { value := (), state := s, events := [e] } := rfl

@[simp] theorem reportAll_apply (es : List Event) (s : σ) :
    (reportAll es : Action σ κ Unit) s = { value := (), state := s, events := es } := rfl

@[simp] theorem onPart_apply (part : ρ → σ) (replace : ρ → σ → ρ) (x : Action σ κ α) (r : ρ) :
    onPart part replace x r =
      { value := (x (part r)).value
        state := replace r (x (part r)).state
        calls := (x (part r)).calls
        events := (x (part r)).events } := rfl

instance : LawfulMonad (Action σ κ) := LawfulMonad.mk' _
  (fun x => by funext s; simp)
  (fun a f => by funext s; simp)
  (fun x f g => by funext s; simp)

end Action

end CreationLoader
