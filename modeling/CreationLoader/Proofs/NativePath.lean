import CreationLoader.Proofs.Steps
import CreationLoader.Simulation.Host

/-!
# Waiting for the polyfill refines binding natively

What an init leaves on a host without shadow DOM is compared with what the same init would have
left there at the same moment, had the host supported it. Both do the same when they are polled,
except that the one waits for its load and reports when that has failed.
-/

namespace CreationLoader
open Simulation (HostRef Hosts)

variable {η σ κ ν τ φ α β ι : Type} [Host η σ κ ν τ]

/-- A host of which it is certain that it supports shadow DOM. -/
structure WithShadowDom (η : Type) where
  host : η

/-- It is asked what the host is asked, and answers as the host does to all but one question. -/
instance : Host (WithShadowDom η) σ κ ν τ where
  hostname h := Host.hostname h.host
  supportsShadowDom h := (fun _ => true) <$> Host.supportsShadowDom h.host
  queryAll h := Host.queryAll h.host
  hasMatch h := Host.hasMatch h.host
  loadScript h := Host.loadScript h.host
  log h := Host.log h.host

namespace Handle
variable {h : Handle η φ α} {selector : String} {w : World σ τ}

/-- The same handle, if its host supported shadow DOM. -/
def withShadowDom (h : Handle η φ α) : Handle (WithShadowDom η) φ α :=
  ⟨h.id, h.entry, ⟨h.host⟩, h.gate, h.polyfillUrl⟩

theorem withShadowDom_init (overrides : Option (Params α))
    (hm : (Host.hasMatch h.host selector w.hosts).value = true) :
    (h.withShadowDom.init selector overrides w).value =
      .ok (h.withShadowDom.pending selector overrides none) := by
  have hs : (Host.supportsShadowDom h.withShadowDom.host
      (Host.hasMatch h.withShadowDom.host selector w.hosts).state).value = true := by
    simp only [Host.supportsShadowDom, Action.map_apply]
  rw [init_of_native (h := h.withShadowDom) overrides hm hs]

end Handle

variable [Factory φ σ κ ν α β ι]

/-- Instances are made alike, since only an init asks whether shadow DOM is supported. -/
theorem Future.come_withShadowDom (h : Handle η φ α) (selector : String)
    (overrides : Option (Params α)) (load load' : Option LoadId) :
    (binding (h.withShadowDom.pending selector overrides load)).come =
      (binding (h.pending selector overrides load')).come := rfl

theorem Future.come_of_no_nodes {p : Pending η φ α} {hosts : σ}
    (hq : (Host.queryAll p.handle.host p.selector hosts).value = []) :
    ((binding p).come hosts).value =
      match (Factory.prepare p.handle.entry.factory p.params
        (Host.queryAll p.handle.host p.selector hosts).state).value with
      | .ok _ => .instances []
      | .error reason => .failed (.instantiationFailed p.handle.id reason) := by
  have hmade := Pending.instantiate_of_no_nodes hq
  cases hv : (Factory.prepare p.handle.entry.factory p.params
    (Host.queryAll p.handle.host p.selector hosts).state).value <;> simp_all [come]

namespace Scene

/-- What an init leaves is polled at any later time. While its load is open nothing comes of it
and nothing is asked, and the same holds for a failed load except that the failure is reported.
Otherwise, the poll makes the same calls with the same outcome as the first poll of what the
init would have left at its time on a host that supports shadow DOM. -/
theorem poll_refines_native_path {s : Scene η σ τ φ α} {handle selector : String} (name : String)
    {overrides : Option (Params α)} {h : Handle η φ α} {p : Pending η φ α}
    (hh : s.handles.lookup handle = some h)
    (hp : (h.init selector overrides s.world).value = .ok p) :
    let init := step (.init handle selector overrides name) s
    let n := h.withShadowDom.pending selector overrides none
    init.state.futures = s.futures ++ [(name, .binding p)] ∧
    (h.withShadowDom.init selector overrides s.world).value = .ok n ∧
    p = h.pending selector overrides p.load ∧
    (Host.supportsShadowDom h.host (Host.hasMatch h.host selector s.world.hosts).state).value =
      p.load.isNone ∧
    ∀ (more : List (Step η σ φ α)) (place : Nat) (name' : String),
      let now := init.state.after more
      let polled := step (.poll place) now
      let native := (Future.binding n).poll now.world
      now.futures[place]? = some (name', .binding p) →
      native.value.isPending = false ∧
      ((Host.queryAll h.host selector now.world.hosts).value = [] →
        native.value = match (Factory.prepare h.entry.factory (h.mergeParams overrides).params
            (Host.queryAll h.host selector now.world.hosts).state).value with
          | .ok _ => .instances []
          | .error reason => .failed (.instantiationFailed h.id reason)) ∧
      (p.load = none → polled.value = .polled native.value ∧ polled.calls = native.calls ∧
        polled.state.world = native.state) ∧
      ∀ id, p.load = some id → ∃ l, now.world.loads[id]? = some l ∧
        l.isFor h.gate h.polyfillUrl = true ∧
        (l.outcome? = none → polled = { value := .polled .pending, state := now }) ∧
        (∀ reason, l.outcome? = some (.failed reason) →
          polled.value = .polled (.failed (.polyfillFailed h.polyfillUrl reason)) ∧
          polled.calls = [] ∧ polled.state.world.hosts = now.world.hosts) ∧
        (l.outcome? = some .loaded →
          polled.value = .polled native.value ∧ polled.calls = native.calls ∧
          polled.state.world.hosts = native.state.hosts) := by
  intro init n
  obtain ⟨hm, hpending, hs, hload⟩ := Handle.init_ok hp
  have hstate : init.state = { s with
      world := (h.init selector overrides s.world).state
      futures := s.futures ++ [(name, .binding p)] } := by
    rw [step_init_state, init_state_of_ok name hh hp]
  refine ⟨by rw [hstate], Handle.withShadowDom_init overrides hm, hpending, hs, ?_⟩
  intro more place name' now polled native hplace
  have hnative : native = _ := Future.poll_of_native rfl
  have hcome : (Future.binding n).come now.world.hosts =
      (Future.binding p).come now.world.hosts := by
    rw [hpending]
    exact congrFun (Future.come_withShadowDom h selector overrides none _) _
  have hpolled : polled = _ := step_poll_of_future hplace
  have hworld : polled.state.world = ((Future.binding p).poll now.world).state := by
    rw [hpolled, poll_of_future hplace]
  refine ⟨?_, ?_, ?_, ?_⟩
  · rw [hnative]
    exact Future.come_not_pending _ _
  · intro hq
    rw [hnative]
    exact Future.come_of_no_nodes (p := n) hq
  · intro hnone
    have hpoll := Future.poll_of_native (f := .binding p) (w := now.world) hnone
    rw [hworld, hpolled, hpoll, hnative, hcome]
    exact ⟨rfl, rfl, rfl⟩
  · intro id hid
    obtain ⟨l₀, hl₀, hfor⟩ := hload id hid
    obtain ⟨l, hl, hg⟩ := after_grows more init.state id l₀ (by rw [hstate]; exact hl₀)
    have hbind : (now.world.loads[id]?).bind Load.outcome? = l.outcome? := by
      rw [hl, Option.bind_some]
    refine ⟨l, hl, (hg.isFor _ _).trans hfor, ?_, ?_, ?_⟩
    · intro ho
      have hpoll := Future.poll_of_isOpen (f := .binding p) hid (hbind.trans ho)
      rw [hpolled, poll_of_future hplace, hpoll]
      rfl
    · intro reason ho
      have hpoll := Future.poll_of_failed (f := .binding p) hid (hbind.trans ho)
      rw [hworld, hpolled, hpoll]
      refine ⟨?_, rfl, rfl⟩
      rw [hpending]
      rfl
    · intro ho
      have hpoll := Future.poll_of_loaded (f := .binding p) hid (hbind.trans ho)
      rw [hworld, hpolled, hpoll, hnative, hcome]
      exact ⟨rfl, rfl, rfl⟩

/-- The load succeeds when the elements are gone: what waits for it makes no instances. -/
theorem poll_without_nodes :
    let h : Handle HostRef Simulation.Factory Json.Value :=
      ⟨"id", ⟨.closure "id" [], ∅⟩, ⟨"page"⟩, .named "gate", "url"⟩
    let s : Scene HostRef Hosts HostRef Simulation.Factory Json.Value :=
      { world := { hosts := [("page", { shadowDom := false, nodes := [("div", [1])] })] }
        handles := [("handle", h)] }
    let more : List (Step HostRef Hosts Simulation.Factory Json.Value) :=
      [.settle 0 .loaded, .hosts fun _ => []]
    (step (.poll 0) ((step (.init "handle" "div" none "future") s).state.after more)).value =
      .polled (.instances []) := by
  intro h s more
  have hp : (h.init "div" none s.world).value = .ok (h.pending "div" none (some 0)) := rfl
  have hh : s.handles.lookup "handle" = some h := rfl
  obtain ⟨-, -, -, -, hpoll⟩ := poll_refines_native_path "future" hh hp
  obtain ⟨-, hgone, -, hload⟩ := hpoll more 0 "future" rfl
  obtain ⟨l, hl, -, -, -, hloaded⟩ := hload 0 rfl
  have hprogress : ((step (.init "handle" "div" none "future") s).state.after more).world.progress?
      0 = some (.settled .loaded) := by decide +kernel
  have ho : l.outcome? = some .loaded := by
    rw [World.progress?, hl] at hprogress
    rw [Load.outcome?, Option.some.inj hprogress, Progress.outcome?]
  rw [(hloaded ho).1, hgone rfl]
  rfl

end Scene

end CreationLoader
