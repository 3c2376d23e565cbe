import CreationLoader.Proofs.Instances
import CreationLoader.Simulation.Host

/-!
# Up to the first failure

Instances are made for elements in order. If one cannot be made, then there is a first that cannot:
the ones before it were made, and those behind it are not tried.
-/

namespace CreationLoader
open Simulation (HostRef Page)

variable {η σ κ ν τ φ α β ι : Type} [Host η σ κ ν τ] [Factory φ σ κ ν α β ι]

/-- Instances are made for all of some elements, one after the other. Each is made in the state
that was left when the one before had been made. -/
inductive CreatesAll (factory : φ) (args : β) : σ → List ν → List ι → σ → Prop
  | nil (s : σ) : CreatesAll factory args s [] [] s
  | cons {s t : σ} {node : ν} {nodes : List ν} {made : ι} {instances : List ι} :
      (Factory.create factory node args s).value = .ok made →
      CreatesAll factory args (Factory.create factory node args s).state nodes instances t →
      CreatesAll factory args s (node :: nodes) (made :: instances) t

namespace CreatesAll
variable {factory : φ} {args : β} {s t : σ} {nodes : List ν} {instances : List ι}

theorem length_eq (h : CreatesAll factory args s nodes instances t) :
    instances.length = nodes.length := by
  induction h with
  | nil => rfl
  | cons _ _ ih => rw [List.length_cons, List.length_cons, ih]

/-- Either all can be made or there is a first that cannot. -/
theorem or_first_failure (factory : φ) (args : β) (s : σ) (nodes : List ν) :
    (∃ instances t, CreatesAll factory args s nodes instances t) ∨
      ∃ before node after instances t reason, nodes = before ++ node :: after ∧
        CreatesAll factory args s before instances t ∧
        (Factory.create factory node args t).value = .error reason := by
  induction nodes generalizing s with
  | nil => exact .inl ⟨[], s, .nil s⟩
  | cons node rest ih =>
    cases hmade : (Factory.create factory node args s).value with
    | error reason => exact .inr ⟨[], node, rest, [], s, reason, rfl, .nil s, hmade⟩
    | ok made =>
      rcases ih (Factory.create factory node args s).state with
        ⟨instances, t, h⟩ | ⟨before, failing, after, instances, t, reason, rfl, h, hfail⟩
      · exact .inl ⟨made :: instances, t, .cons hmade h⟩
      · exact .inr ⟨node :: before, failing, after, made :: instances, t, reason, rfl,
          .cons hmade h, hfail⟩

end CreatesAll

section createAll
variable {factory : φ} {args : β} {s t : σ} {node : ν} {before nodes : List ν} {made : ι}
  {instances : List ι} {reason : String}

theorem createAll_watched_of_error (id : String) (nodes : List ν)
    (h : (Factory.create factory node args s).value = .error reason) :
    createAll (⟨factory⟩ : WatchedFactory η φ) id args (node :: nodes) s =
      { value := .error (.instantiationFailed id reason)
        state := (Factory.create factory node args s).state
        calls := [.create factory node args]
        events := [.creationFailed id reason] } :=
  createAll_of_error h

theorem createAll_watched_of_ok (id : String) (nodes : List ν)
    (h : (Factory.create factory node args s).value = .ok made) :
    createAll (⟨factory⟩ : WatchedFactory η φ) id args (node :: nodes) s =
      let others := createAll (⟨factory⟩ : WatchedFactory η φ) id args nodes
        (Factory.create factory node args s).state
      { value := others.value.map (made :: ·)
        state := others.state
        calls := .create factory node args :: others.calls
        events := others.events } :=
  createAll_of_ok h

theorem createAll_of_createsAll (id : String)
    (h : CreatesAll factory args s nodes instances t) :
    createAll (⟨factory⟩ : WatchedFactory η φ) id args nodes s =
      { value := .ok instances, state := t, calls := nodes.map (.create factory · args) } := by
  induction h with
  | nil => rfl
  | cons hmade _ ih =>
    rw [createAll_watched_of_ok id _ hmade, ih]
    rfl

theorem createAll_of_failure (id : String) (after : List ν)
    (h : CreatesAll factory args s before instances t)
    (hfail : (Factory.create factory node args t).value = .error reason) :
    createAll (⟨factory⟩ : WatchedFactory η φ) id args (before ++ node :: after) s =
      { value := .error (.instantiationFailed id reason)
        state := (Factory.create factory node args t).state
        calls := (before ++ [node]).map (.create factory · args)
        events := [.creationFailed id reason] } := by
  induction h with
  | nil s => exact createAll_watched_of_error id after hfail
  | cons hmade _ ih =>
    rw [List.cons_append, createAll_watched_of_ok id _ hmade, ih hfail]
    rfl

theorem createAll_watched (factory : φ) (id : String) (args : β) (nodes : List ν) (s : σ) :
    let watched := createAll (⟨factory⟩ : WatchedFactory η φ) id args nodes s
    (createAll factory id args nodes s).value = watched.value ∧
      (createAll factory id args nodes s).state = watched.state := by
  induction nodes generalizing s with
  | nil => exact ⟨rfl, rfl⟩
  | cons node rest ih =>
    cases hmade : (Factory.create factory node args s).value with
    | error reason =>
      rw [createAll_of_error hmade, createAll_watched_of_error id rest hmade]
      exact ⟨rfl, rfl⟩
    | ok made =>
      obtain ⟨hvalue, hstate⟩ := ih (Factory.create factory node args s).state
      rw [createAll_of_ok hmade, createAll_watched_of_ok id rest hmade]
      exact ⟨congrArg (Except.map _) hvalue, hstate⟩

end createAll

namespace Pending

section
variable (p : Pending η φ α)

/-- What is looked up first. -/
def found (s : σ) : Effect σ κ (List ν) := Host.queryAll p.handle.host p.selector s

/-- What the parameters are prepared to, when the elements have been looked up. -/
def prepared (s : σ) : Effect σ κ (Except String β) :=
  Factory.prepare p.handle.entry.factory p.params (p.found s).state

/-- What is asked for in any case. -/
def opening : List (Request η φ ν α β) :=
  [.queryAll p.handle.host p.selector, .prepare p.handle.entry.factory p.params]

/-- What is reported in any case. -/
def begun (s : σ) : Event := .instantiating p.handle.id p.selector (p.found s).value.length

end

variable {p : Pending η φ α} {s t : σ} {args : β} {reason : String} {instances : List ι}

theorem instantiate_of_unprepared (h : (p.prepared s).value = .error reason) :
    p.watched.instantiate s =
      { value := .error (.instantiationFailed p.handle.id reason)
        state := (p.prepared s).state
        calls := p.opening
        events := [p.begun s, .creationFailed p.handle.id reason] } :=
  instantiate_of_error (p := p.watched) h

section
variable (hargs : (p.prepared s).value = .ok args)
include hargs

theorem instantiate_of_prepared :
    p.watched.instantiate s =
      let made := createAll (⟨p.handle.entry.factory⟩ : WatchedFactory η φ) p.handle.id args
        (p.found s).value (p.prepared s).state
      { value := made.value
        state := made.state
        calls := p.opening ++ made.calls
        events := p.begun s :: made.events } :=
  instantiate_of_ok (p := p.watched) hargs

theorem instantiate_of_createsAll
    (h : CreatesAll p.handle.entry.factory args (p.prepared s).state (p.found s).value
      instances t) :
    p.watched.instantiate s =
      { value := .ok instances
        state := t
        calls := p.opening ++ (p.found s).value.map (.create p.handle.entry.factory · args)
        events := [p.begun s] } := by
  rw [instantiate_of_prepared hargs, createAll_of_createsAll _ h]

theorem instantiate_of_first_failure {before after : List ν} {node : ν}
    (hfound : (p.found s).value = before ++ node :: after)
    (h : CreatesAll p.handle.entry.factory args (p.prepared s).state before instances t)
    (hfail : (Factory.create p.handle.entry.factory node args t).value = .error reason) :
    p.watched.instantiate s =
      { value := .error (.instantiationFailed p.handle.id reason)
        state := (Factory.create p.handle.entry.factory node args t).state
        calls := p.opening ++ (before ++ [node]).map (.create p.handle.entry.factory · args)
        events := [p.begun s, .creationFailed p.handle.id reason] } := by
  rw [instantiate_of_prepared hargs, hfound, createAll_of_failure _ after h hfail]

end

theorem instantiate_watched (p : Pending η φ α) (s : σ) :
    (p.instantiate s).value = (p.watched.instantiate s).value ∧
      (p.instantiate s).state = (p.watched.instantiate s).state := by
  cases hargs : (p.prepared s).value with
  | error reason =>
    rw [instantiate_of_error hargs, instantiate_of_unprepared hargs]
    exact ⟨rfl, rfl⟩
  | ok args =>
    rw [instantiate_of_ok hargs, instantiate_of_prepared hargs]
    exact createAll_watched p.handle.entry.factory p.handle.id args _ _

end Pending

/-- What comes of making the instances of a creation, on any host. The elements are looked up
once, and the merged parameters are prepared once, also when there is no element. If that fails,
nothing is made. Otherwise the elements are taken in order, each with the prepared parameters:
either an instance is made for every one of them, or the first for which none can be made is the
last that is tried. A failure is told with the id of the creation and its reason, and is reported
once. -/
theorem instantiates_up_to_first_failure (p : Pending η φ α) (s : σ) :
    let host := p.handle.host
    let factory := p.handle.entry.factory
    let id := p.handle.id
    let asked := Host.queryAll host p.selector s
    let prepared := Factory.prepare factory p.params asked.state
    let opening : List (Request η φ ν α β) :=
      [.queryAll host p.selector, .prepare factory p.params]
    let begun : Event := .instantiating id p.selector asked.value.length
    let result := p.watched.instantiate s
    ((p.instantiate s).value = result.value ∧ (p.instantiate s).state = result.state) ∧
    ((∃ reason, prepared.value = .error reason ∧
        result =
          { value := .error (.instantiationFailed id reason)
            state := prepared.state
            calls := opening
            events := [begun, .creationFailed id reason] }) ∨
      (∃ args before node after instances t reason, prepared.value = .ok args ∧
        asked.value = before ++ node :: after ∧
        CreatesAll factory args prepared.state before instances t ∧
        (Factory.create factory node args t).value = .error reason ∧
        result =
          { value := .error (.instantiationFailed id reason)
            state := (Factory.create factory node args t).state
            calls := opening ++ (before ++ [node]).map (.create factory · args)
            events := [begun, .creationFailed id reason] }) ∨
      ∃ args instances t, prepared.value = .ok args ∧
        CreatesAll factory args prepared.state asked.value instances t ∧
        instances.length = asked.value.length ∧
        result =
          { value := .ok instances
            state := t
            calls := opening ++ asked.value.map (.create factory · args)
            events := [begun] }) ∧
    ((∃ instances, result.value = .ok instances) ↔ ∃ args instances t,
      prepared.value = .ok args ∧
        CreatesAll factory args prepared.state asked.value instances t) := by
  intro host factory id asked prepared opening begun result
  refine ⟨p.instantiate_watched s, ?_⟩
  cases hprepared : prepared.value with
  | error reason =>
    have hresult : result = _ := Pending.instantiate_of_unprepared hprepared
    refine ⟨.inl ⟨reason, rfl, hresult⟩, ?_⟩
    rw [hresult]
    constructor
    · rintro ⟨instances, h⟩
      exact nomatch h
    · rintro ⟨args, -, -, h, -⟩
      exact nomatch h
  | ok args =>
    have hmade (instances : List ι) (t : σ)
        (h : CreatesAll factory args prepared.state asked.value instances t) : result = _ :=
      Pending.instantiate_of_createsAll hprepared h
    rcases CreatesAll.or_first_failure factory args prepared.state asked.value with
      ⟨instances, t, hall⟩ | ⟨before, node, after, instances, t, reason, hsplit, hbefore, hfail⟩
    · refine ⟨.inr (.inr ⟨args, instances, t, rfl, hall, hall.length_eq, hmade _ _ hall⟩), ?_⟩
      exact ⟨fun _ => ⟨args, instances, t, rfl, hall⟩, fun _ => ⟨instances, by rw [hmade _ _ hall]⟩⟩
    · have hresult : result = _ :=
        Pending.instantiate_of_first_failure hprepared hsplit hbefore hfail
      refine ⟨.inr (.inl ⟨args, before, node, after, instances, t, reason, rfl, hsplit, hbefore,
        hfail, hresult⟩), ?_⟩
      constructor
      · rintro ⟨instances, h⟩
        rw [hresult] at h
        exact nomatch h
      · rintro ⟨args', instances', t', hargs, hall⟩
        obtain rfl : args = args' := Except.ok.inj hargs
        exact ⟨instances', by rw [hmade _ _ hall]⟩

/-- The second of three elements is refused, and the third is not tried. -/
example :
    let factory : WatchedFactory HostRef Simulation.Factory := ⟨.closure "id" [(2, "refused")]⟩
    let p : Pending (WatchedHost HostRef Simulation.Factory)
        (WatchedFactory HostRef Simulation.Factory) Json.Value :=
      ⟨⟨"id", ⟨factory, ∅⟩, ⟨⟨"page"⟩⟩, .own 0, "url"⟩, "div", ∅, none⟩
    let page : Page := { nodes := [("div", [1, 2, 1])] }
    (p.instantiate [("page", page)]).calls =
      [.queryAll ⟨"page"⟩ "div", .prepare factory.factory ∅, .create factory.factory 1 ∅,
        .create factory.factory 2 ∅] := rfl

end CreationLoader
