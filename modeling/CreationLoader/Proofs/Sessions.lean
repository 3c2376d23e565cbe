import CreationLoader.Proofs.Steps
import CreationLoader.Simulation.Session

/-!
# Sessions are runs of scenes

Every step of a session is some steps of its scene, one after the other. So what a session comes
to is reachable, and what holds of all reachable scenes holds of it.
-/

namespace CreationLoader.Simulation.Session
variable {ρ θ : Type}

/-- Whatever is done leads where steps of the scene lead. -/
def Follows (x : Run ρ) : Prop :=
  ∀ s : Session, ∃ steps : List (Scene.Step HostRef Hosts Factory Json.Value),
    (x s).state = s.after steps

theorem follows_pure (a : ρ) : Follows (pure a) := fun _ => ⟨[], rfl⟩

theorem follows_get : Follows Action.get := fun _ => ⟨[], rfl⟩

theorem Follows.bind {x : Run ρ} {f : ρ → Run θ} (hx : Follows x) (hf : ∀ a, Follows (f a)) :
    Follows (x >>= f) := by
  intro s
  obtain ⟨steps, hs⟩ := hx s
  obtain ⟨more, hm⟩ := hf (x s).value (x s).state
  refine ⟨steps ++ more, ?_⟩
  rw [Scene.after_append, ← hs]
  exact hm

/-- What leaves the scene as a step does is that step. -/
theorem follows_of_step {x : Run ρ} (y : Scene.Step HostRef Hosts Factory Json.Value)
    (h : ∀ s : Session, (x s).state = (Scene.step y s).state) : Follows x := by
  intro s
  exact ⟨[y], by rw [h, Scene.after_cons, Scene.after_nil]⟩

theorem follows_refuse (what : Missing) : Follows (refuse what) := follows_pure _

theorem follows_step (y : Scene.Step HostRef Hosts Factory Json.Value) :
    Follows (Scene.step y) := follows_of_step y fun _ => rfl

theorem follows_addLoader (name : String) (registry : Registry Factory Json.Value)
    (config : Config) (host : HostRef) (gate : Option String) :
    Follows (Scene.addLoader name registry config host gate) :=
  follows_of_step (.loader name registry config host gate) fun _ => rfl

theorem follows_dropLoader (name : String) : Follows (Scene.dropLoader name) :=
  follows_of_step (.dropLoader name) fun _ => rfl

theorem follows_construct (loader id name : String) : Follows (Scene.construct loader id name) := by
  refine follows_of_step (.construct loader id name) fun s => ?_
  rcases hv : (Scene.construct loader id name s).value with _ | _ | _ <;> simp [Scene.step, hv]

theorem follows_clone (handle name : String) : Follows (Scene.clone handle name) :=
  follows_of_step (.clone handle name) fun s => by simp [Scene.step]

theorem follows_init (handle selector : String) (overrides : Option (Params Json.Value))
    (name : String) : Follows (Scene.init handle selector overrides name) :=
  follows_of_step (.init handle selector overrides name) fun s => by simp

theorem follows_ready (gate : GateId) (host : HostRef) (url name : String) :
    Follows (Scene.ready gate host url name) :=
  follows_of_step (.ready gate host url name) fun s => by simp

theorem follows_poll (place : Nat) : Follows (Scene.poll place) :=
  follows_of_step (.poll place) fun s => by simp

theorem follows_drop (place : Nat) : Follows (Scene.drop place) :=
  follows_of_step (.drop place) fun _ => rfl

theorem follows_registerAll (r : Registry Factory Json.Value) (cs : List Creation) :
    Follows (registerAll r cs) := by
  induction cs generalizing r with
  | nil => exact follows_pure _
  | cons c rest ih =>
    rw [registerAll]
    cases c.defaults.read with
    | error e => exact follows_pure _
    | ok defaults =>
      refine .bind ?_ fun registered => ?_
      · intro s
        refine ⟨[], ?_⟩
        cases hr : r.register c.id c.factory defaults <;> simp [Registry.registerReporting, hr]
      · cases registered with
        | error e => exact follows_pure _
        | ok r => exact ih r

theorem follows_pollFrom (count place : Nat) : Follows (pollFrom count place) := by
  induction count generalizing place with
  | zero => exact follows_pure _
  | succ count ih =>
    rw [pollFrom]
    refine .bind follows_get fun s => ?_
    rcases s.futures[place]? with _ | ⟨name, f⟩
    · exact follows_pure _
    · refine .bind (follows_poll place) fun outcome => ?_
      cases outcome with
      | none => exact follows_pure _
      | some outcome => exact .bind (ih _) fun _ => follows_pure _

theorem follows_dropEach (places : List Nat) : Follows (dropEach places) := by
  induction places with
  | nil => exact follows_pure _
  | cons place rest ih => exact .bind (follows_drop place) fun _ => ih

theorem follows (x : Step) : Follows (step x) := by
  cases x with
  | host name change =>
    exact .bind (follows_step _) fun _ => .bind follows_get fun _ => follows_pure _
  | loader name host creations config gate =>
    refine .bind (follows_registerAll ∅ creations) fun registered => ?_
    cases registered with
    | error e => exact follows_pure _
    | ok registry =>
      dsimp only
      cases (config.map Config.parse).getD (.ok {}) with
      | error e => exact follows_pure _
      | ok config =>
        refine .bind follows_get fun s => ?_
        split
        · exact .bind (follows_addLoader name registry config ⟨host⟩ gate) fun _ => follows_pure _
        · exact follows_refuse _
  | dropLoader name =>
    exact .bind follows_get fun _ => .bind (follows_dropLoader name) fun _ => follows_pure _
  | construct loader id name =>
    refine .bind (follows_construct loader id name) fun made => ?_
    rcases made with _ | _ | _
    · exact follows_refuse _
    · exact follows_pure _
    · exact follows_pure _
  | clone handle name =>
    refine .bind (follows_clone handle name) fun made => ?_
    cases made with
    | none => exact follows_refuse _
    | some h => exact follows_pure _
  | handle name =>
    refine .bind follows_get fun s => ?_
    cases s.handles.lookup name with
    | none => exact follows_refuse _
    | some h => exact follows_pure _
  | contents loader =>
    refine .bind follows_get fun s => ?_
    cases s.loaders.lookup loader with
    | none => exact follows_refuse _
    | some l => exact follows_pure _
  | init handle selector overrides name =>
    simp only [step, init]
    cases overrides.mapM Params.Source.read with
    | error e => exact follows_pure _
    | ok overrides =>
      refine .bind (follows_init handle selector overrides name) fun begun => ?_
      rcases begun with _ | _ | _
      · exact follows_refuse _
      · exact follows_pure _
      · exact follows_pure _
  | ready gate host url name =>
    refine .bind follows_get fun s => ?_
    split
    · exact .bind (follows_ready _ _ url name) fun _ => follows_pure _
    · exact follows_refuse _
  | isLoaded gate url => exact .bind follows_get fun _ => follows_pure _
  | finish host index outcome =>
    refine .bind follows_get fun s => ?_
    split
    · cases (s.openLoads ⟨host⟩)[index]? with
      | none => exact follows_refuse _
      | some load =>
        exact .bind (follows_step _) fun _ => .bind follows_get fun _ => follows_pure _
    · exact follows_refuse _
  | poll future =>
    refine .bind follows_get fun s => ?_
    cases s.futures.findIdx? fun e => e.1 == future with
    | none => exact follows_refuse _
    | some place =>
      refine .bind (follows_poll place) fun outcome => ?_
      cases outcome with
      | none => exact follows_refuse _
      | some outcome => exact follows_pure _
  | pollAll => exact .bind follows_get fun _ => .bind (follows_pollFrom _ 0) fun _ => follows_pure _
  | drop future =>
    exact .bind follows_get fun _ => .bind (follows_dropEach _) fun _ => follows_pure _

def after : List Step → Session → Session
  | [], s => s
  | x :: rest, s => after rest (step x s).state

theorem reachable_after {s : Session} (hs : s.Reachable) (xs : List Step) :
    Scene.Reachable (after xs s) := by
  induction xs generalizing s with
  | nil => exact hs
  | cons x xs ih =>
    obtain ⟨steps, h⟩ := follows x s
    rw [after]
    exact ih (h ▸ hs.after steps)

end CreationLoader.Simulation.Session
