import CreationLoader.Proofs.Watching

/-!
# Making instances

Instances are made one after the other, up to the first that cannot be made, and of parameters
that were prepared once. What goes wrong on the way is always reported as a failed instantiation
of the creation.
-/

namespace CreationLoader
variable {η σ κ ν τ φ α β ι ρ : Type} [Host η σ κ ν τ] [Factory φ σ κ ν α β ι]

section createAll
variable {factory : φ} {id : String} {args : β} {node : ν} {nodes : List ν} {s : σ}

theorem createAll_of_error {reason : String}
    (h : (Factory.create factory node args s).value = .error reason) :
    createAll factory id args (node :: nodes) s =
      let first := Factory.create factory node args s
      { value := .error (.instantiationFailed id reason)
        state := first.state
        calls := first.calls
        events := first.events ++ [.creationFailed id reason] } := by
  simp [createAll, creationFailure, h]

theorem createAll_of_ok {made : ι} (h : (Factory.create factory node args s).value = .ok made) :
    createAll factory id args (node :: nodes) s =
      let first := Factory.create factory node args s
      let others := createAll factory id args nodes first.state
      { value := others.value.map (made :: ·)
        state := others.state
        calls := first.calls ++ others.calls
        events := first.events ++ others.events } := by
  cases hv : (createAll factory id args nodes (Factory.create factory node args s).state).value <;>
    simp [createAll, h, hv, Except.map]

theorem createAll_error {e : LoaderError}
    (h : (createAll factory id args nodes s).value = .error e) :
    ∃ reason, e = .instantiationFailed id reason := by
  induction nodes generalizing s with
  | nil => exact nomatch h
  | cons node rest ih =>
    cases hmade : (Factory.create factory node args s).value with
    | error reason =>
      rw [createAll_of_error hmade] at h
      exact ⟨reason, (Except.error.inj h).symm⟩
    | ok made =>
      rw [createAll_of_ok hmade] at h
      cases hv : (createAll factory id args rest
          (Factory.create factory node args s).state).value with
      | error e' =>
        obtain rfl : e' = e := by simpa [hv, Except.map] using h
        exact ih hv
      | ok instances => simp [hv, Except.map] at h

end createAll

namespace Pending
variable {p : Pending η φ α} {s : σ}

theorem instantiate_of_error {reason : String}
    (h : (Factory.prepare p.handle.entry.factory p.params
      (Host.queryAll p.handle.host p.selector s).state).value = .error reason) :
    p.instantiate s =
      let asked := Host.queryAll p.handle.host p.selector s
      let prepared := Factory.prepare p.handle.entry.factory p.params asked.state
      { value := .error (.instantiationFailed p.handle.id reason)
        state := prepared.state
        calls := asked.calls ++ prepared.calls
        events := asked.events ++ (.instantiating p.handle.id p.selector asked.value.length ::
          (prepared.events ++ [.creationFailed p.handle.id reason])) } := by
  simp [instantiate, creationFailure, h]

theorem instantiate_of_ok {args : β}
    (h : (Factory.prepare p.handle.entry.factory p.params
      (Host.queryAll p.handle.host p.selector s).state).value = .ok args) :
    p.instantiate s =
      let asked := Host.queryAll p.handle.host p.selector s
      let prepared := Factory.prepare p.handle.entry.factory p.params asked.state
      let made := createAll p.handle.entry.factory p.handle.id args asked.value prepared.state
      { value := made.value
        state := made.state
        calls := asked.calls ++ (prepared.calls ++ made.calls)
        events := asked.events ++ (.instantiating p.handle.id p.selector asked.value.length ::
          (prepared.events ++ made.events)) } := by
  simp [instantiate, h]

theorem instantiate_error {e : LoaderError} (h : (p.instantiate s).value = .error e) :
    ∃ reason, e = .instantiationFailed p.handle.id reason := by
  cases hv : (Factory.prepare p.handle.entry.factory p.params
      (Host.queryAll p.handle.host p.selector s).state).value with
  | error reason =>
    rw [instantiate_of_error hv] at h
    exact ⟨reason, (Except.error.inj h).symm⟩
  | ok args =>
    rw [instantiate_of_ok hv] at h
    exact createAll_error h

end Pending

/-- Whether a poll has gone on to make instances, whatever came of it. -/
def Polled.isInstantiated : Polled ι → Bool
  | .instances _ => true
  | .failed (.instantiationFailed _ _) => true
  | _ => false

theorem Polled.isPending_of_isInstantiated {polled : Polled ι}
    (h : polled.isInstantiated = true) : polled.isPending = false := by
  cases polled with
  | pending => exact nomatch h
  | _ => rfl

namespace Future

theorem come_isInstantiated (p : Pending η φ α) (s : σ) :
    ((binding p).come s).value.isInstantiated = true := by
  cases hv : (p.instantiate s).value with
  | ok made => simp [come, hv, Polled.isInstantiated]
  | error e =>
    obtain ⟨reason, rfl⟩ := Pending.instantiate_error hv
    simp [come, hv, Polled.isInstantiated]

theorem failed_of_answer {f : Future η φ α} {s : σ} {o : Option Outcome} {url reason : String}
    (h : f.answer s o = .failed (.polyfillFailed url reason)) : o = some (.failed reason) := by
  rcases o with _ | _ | told
  · exact nomatch h
  · cases f with
    | ready url id => exact nomatch h
    | binding p =>
      have hmade := come_isInstantiated p s
      rw [show ((binding p).come s).value = .failed (.polyfillFailed url reason) from h] at hmade
      exact nomatch hmade
  · obtain ⟨-, rfl⟩ := LoaderError.polyfillFailed.inj (Polled.failed.inj h)
    rfl

theorem come_calls (p : Pending η φ α) (s : σ) :
    ((binding p).come s).calls = (p.instantiate s).calls := by
  cases hv : (p.instantiate s).value <;> simp [come, hv]

end Future

/-- Holds of all that is done on the way to instances, and of doing such things in sequence. -/
structure Covers (η φ : Type) [Host η σ κ ν τ] [Factory φ σ κ ν α β ι]
    (P : ∀ {ρ : Type}, Action σ κ ρ → Prop) : Prop where
  pure : ∀ {ρ : Type} (a : ρ), P (Pure.pure a)
  bind : ∀ {ρ θ : Type} {x : Action σ κ ρ} {f : ρ → Action σ κ θ}, P x → (∀ a, P (f a)) →
    P (x >>= f)
  queryAll : ∀ (host : η) (selector : String), P (Host.queryAll host selector)
  instantiating : ∀ id selector nodes, P (Action.report (.instantiating id selector nodes))
  prepare : ∀ (factory : φ) (params : Params α), P (Factory.prepare factory params)
  create : ∀ (factory : φ) (node : ν) (args : β), P (Factory.create factory node args)
  creationFailed : ∀ id reason, P (Action.report (.creationFailed id reason))

namespace Covers
variable {P : ∀ {ρ : Type}, Action σ κ ρ → Prop}

theorem creationFailure (h : Covers η φ P) (id reason : String) :
    P (creationFailure id reason) :=
  h.bind (h.creationFailed id reason) fun _ => h.pure _

theorem createAll (h : Covers η φ P) (factory : φ) (id : String) (args : β) (nodes : List ν) :
    P (createAll factory id args nodes) := by
  induction nodes with
  | nil => exact h.pure _
  | cons node rest ih =>
    refine h.bind (h.create factory node args) fun made => ?_
    cases made with
    | error reason => exact h.bind (h.creationFailure id reason) fun _ => h.pure _
    | ok made =>
      refine h.bind ih fun others => ?_
      cases others <;> exact h.pure _

theorem instantiate (h : Covers η φ P) (p : Pending η φ α) : P p.instantiate := by
  refine h.bind (h.queryAll _ _) fun nodes => h.bind (h.instantiating _ _ _) fun _ => ?_
  refine h.bind (h.prepare _ _) fun prepared => ?_
  cases prepared with
  | error reason => exact h.bind (h.creationFailure _ reason) fun _ => h.pure _
  | ok args => exact h.createAll _ _ args nodes

theorem come (h : Covers η φ P) (f : Future η φ α) : P f.come := by
  cases f with
  | ready url id => exact h.pure _
  | binding p =>
    refine h.bind (h.instantiate p) fun made => ?_
    cases made <;> exact h.pure _

end Covers

theorem createAll_calls (factory : WatchedFactory η φ) (id : String) (args : β) (nodes : List ν)
    (s : σ) : ∀ r ∈ (createAll factory id args nodes s).calls,
      ∃ node, r = .create factory.factory node args := by
  induction nodes generalizing s with
  | nil => exact fun r hr => nomatch hr
  | cons node rest ih =>
    intro r hr
    cases hv : (Factory.create factory node args s).value with
    | error reason =>
      rw [createAll_of_error hv] at hr
      exact ⟨node, List.mem_singleton.mp hr⟩
    | ok made =>
      rw [createAll_of_ok hv] at hr
      rcases List.mem_append.mp hr with hr | hr
      · exact ⟨node, List.mem_singleton.mp hr⟩
      · exact ih _ r hr

/-- The elements are looked up, the parameters are prepared once, also when no element matches,
and then nothing is asked for but instances. -/
theorem Pending.instantiate_calls (p : Pending (WatchedHost η φ) (WatchedFactory η φ) α) (s : σ) :
    ∃ creates, (p.instantiate s).calls =
      .queryAll p.handle.host.host p.selector ::
        .prepare p.handle.entry.factory.factory p.params :: creates ∧
      ∀ r ∈ creates, ∃ node args, r = .create p.handle.entry.factory.factory node args := by
  cases hv : (Factory.prepare p.handle.entry.factory p.params
      (Host.queryAll p.handle.host p.selector s).state).value with
  | error reason =>
    rw [instantiate_of_error hv]
    exact ⟨[], rfl, fun r hr => nomatch hr⟩
  | ok args =>
    rw [instantiate_of_ok hv]
    refine ⟨_, rfl, fun r hr => ?_⟩
    obtain ⟨node, hr⟩ := createAll_calls _ _ _ _ _ r hr
    exact ⟨node, args, hr⟩

end CreationLoader
