import CreationLoader.Proofs.Beginning

/-!
# Once loaded, always loaded

A gate that has told somebody of a success keeps that load for its URL. No step takes it away: a
new load is begun only behind a failure, and what is polled late is polled at another place of the
record. So whoever asks from then on gets a load that is there, and has the first poll answered.
-/

namespace CreationLoader
open Simulation (HostRef Hosts)

variable {η σ κ ν τ φ α β ι : Type}

namespace World

/-- What a gate keeps for a URL is a load that has succeeded, and somebody was told. -/
structure Loaded (w : World σ τ) (gate : GateId) (url : String) (id : LoadId) : Prop where
  current : w.current? gate url = some id
  told : w.progress? id = some (.delivered .loaded)

variable {w v : World σ τ} {gate : GateId} {url : String} {id : LoadId} {l : Load τ}

theorem progress?_eq_some_iff {p : Progress} :
    w.progress? id = some p ↔ ∃ l, w.loads[id]? = some l ∧ l.progress = p := by
  simp [progress?]

theorem Loaded.congr (h : w.Loaded gate url id) (hv : v.loads = w.loads) :
    v.Loaded gate url id := by
  refine ⟨current?_congr hv gate url ▸ h.current, ?_⟩
  simpa only [progress?, hv] using h.told

/-- As no load is begun behind a success, one that was told of is what the gate keeps. -/
theorem Succession.loaded (h : w.Succession gate url) (hl : w.loads[id]? = some l)
    (hfor : l.isFor gate url = true) (hp : l.progress = .delivered .loaded) :
    w.Loaded gate url id := by
  refine ⟨?_, progress?_eq_some_iff.mpr ⟨l, hl, hp⟩⟩
  cases hc : w.current? gate url with
  | none =>
    rw [current?_eq_none_iff] at hc
    rw [hc l (List.mem_of_getElem? hl)] at hfor
    exact nomatch hfor
  | some last =>
    obtain ⟨m, hm, hmfor, hmax⟩ := current?_eq_some hc
    have htold : l.progress.isToldFailure = false := by
      rw [hp]
      rfl
    exact congrArg some (Nat.le_antisymm (h.le hl hm hfor hmfor htold) (hmax id l hl hfor))

end World

namespace Gate

theorem isLoaded_iff {w : World σ τ} {gate : GateId} {url : String} :
    isLoaded w gate url = true ↔ ∃ id, w.Loaded gate url id := by
  simp only [isLoaded, beq_iff_eq, Option.bind_eq_some_iff]
  exact exists_congr fun id => ⟨fun ⟨hc, hp⟩ => ⟨hc, hp⟩, fun ⟨hc, hp⟩ => ⟨hc, hp⟩⟩

theorem ready_of_loaded [Host η σ κ ν τ] {w : World σ τ} {gate : GateId} {url : String}
    {id : LoadId} (h : w.Loaded gate url id) (host : η) :
    ready gate host url w = { value := id, state := w } := by
  simp [ready, h.current, h.told]

end Gate

theorem Future.poll_of_told [Host η σ κ ν τ] [Factory φ σ κ ν α β ι] {f : Future η φ α}
    {w : World σ τ} {id : LoadId} (hf : f.load? = some id)
    (hp : w.progress? id = some (.delivered .loaded)) :
    f.poll w =
      { value := (f.come w.hosts).value
        state := { w with hosts := (f.come w.hosts).state }
        calls := (f.come w.hosts).calls
        events := (f.come w.hosts).events } := by
  obtain ⟨l, hl, hp⟩ := World.progress?_eq_some_iff.mp hp
  have ho : (w.loads[id]?).bind Load.outcome? = some .loaded := by
    rw [hl, Option.bind_some, Load.outcome?_of_delivered hp]
  have hdeliver : w.loads.modify id Load.deliver = w.loads := World.modify_eq_self fun m hm => by
    obtain rfl := Option.some.inj (hl.symm.trans hm)
    simp [Load.deliver, hp]
  have hnews : (w.loads[id]?).elim [] Load.news = [] := by
    simp [hl, Load.news, hp]
  rw [poll_of_loaded hf ho, hdeliver, hnews, List.nil_append]

namespace Scene
variable [Host η σ κ ν τ] [Factory φ σ κ ν α β ι]

/-- A poll at a place would be the first to find that a load of a gate has succeeded. -/
def FindsLoaded (s : Scene η σ τ φ α) (place : Nat) (gate : GateId) (url : String)
    (id : LoadId) : Prop :=
  ∃ name f l, s.futures[place]? = some (name, f) ∧ f.load? = some id ∧
    s.world.loads[id]? = some l ∧ l.isFor gate url = true ∧ l.progress = .settled .loaded

section
variable {s : Scene η σ τ φ α} {gate : GateId} {url : String} {id : LoadId}

/-- Whatever is done next, a load that the gate has told of as a success is what it keeps. -/
theorem Reachable.loaded_after (hs : s.Reachable) (h : s.world.Loaded gate url id)
    (more : List (Step η σ φ α)) : (s.after more).world.Loaded gate url id := by
  obtain ⟨l, hl, hp⟩ := World.progress?_eq_some_iff.mp h.told
  obtain ⟨n, hn, hfor, -⟩ := World.current?_eq_some h.current
  obtain rfl := Option.some.inj (hl.symm.trans hn)
  obtain ⟨m, hm, hg⟩ := after_grows more s id l hl
  have hsucc := (hs.after more).succession gate url
  exact hsucc.loaded hm (hg.isFor gate url ▸ hfor) (hg.delivered _ hp)

/-- A gate has a URL loaded if and only if a poll has found it so. -/
theorem isLoaded_iff_found (hosts : σ) (steps : List (Step η σ φ α)) :
    let start : Scene η σ τ φ α := initial hosts
    Gate.isLoaded (start.after steps).world gate url = true ↔
      ∃ before place rest id, steps = before ++ .poll place :: rest ∧
        (start.after before).FindsLoaded place gate url id := by
  intro start
  constructor
  · intro hloaded
    obtain ⟨id, hc, htold⟩ := Gate.isLoaded_iff.mp hloaded
    obtain ⟨l, hl, hfor, -⟩ := World.current?_eq_some hc
    obtain ⟨m, hm, hp⟩ := World.progress?_eq_some_iff.mp htold
    obtain rfl := Option.some.inj (hl.symm.trans hm)
    obtain ⟨before, place, rest, name, f, m, rfl, hf, hid, hm, hsettled⟩ :=
      delivered_at (by simp [start, initial]) hl hp
    have hgrows : (start.after before).world.Grows
        (start.after (before ++ .poll place :: rest)).world := by
      rw [after_append]
      exact after_grows _ _
    obtain ⟨n, hn, hg⟩ := hgrows id m hm
    obtain rfl := Option.some.inj (hl.symm.trans hn)
    exact ⟨before, place, rest, id, rfl, name, f, m, hf, hid, hm, hg.isFor gate url ▸ hfor,
      hsettled⟩
  · rintro ⟨before, place, rest, id, rfl, name, f, l, hf, hid, hl, hfor, hsettled⟩
    obtain ⟨m, hm, hg, hp⟩ :=
      delivered_of_poll rest hf hid hl (Load.outcome?_of_settled hsettled)
    have hsucc := ((reachable_initial hosts).after (before ++ .poll place :: rest)).succession gate
      url
    exact Gate.isLoaded_iff.mpr ⟨id, hsucc.loaded hm (hg.isFor gate url ▸ hfor) hp⟩

/-- Until what waits for it is polled, a script is not loaded, though its host may have ended the
load with success. -/
example :
    let ask : Step HostRef Hosts Simulation.Factory Json.Value :=
      .ready (.named "gate") ⟨"page"⟩ "url" "first"
    let start : Scene HostRef Hosts HostRef Simulation.Factory Json.Value := initial []
    let loaded (s : Scene HostRef Hosts HostRef Simulation.Factory Json.Value) : Bool :=
      Gate.isLoaded s.world (.named "gate") "url"
    loaded (start.after [ask, .settle 0 .loaded]) = false ∧
      loaded (start.after [ask, .settle 0 .loaded, .poll 0]) = true := by
  decide +kernel

theorem step_ready_of_loaded (h : s.world.Loaded gate url id) (host : η) (name : String) :
    step (.ready gate host url name) s =
      { value := .done
        state := { s with futures := s.futures ++ [(name, .ready url id)] } } := by
  simp [step, ready, onWorld, wait, Gate.ready_of_loaded h host]

theorem step_poll_of_told {place : Nat} {name : String} {f : Future η φ α}
    (hf : s.futures[place]? = some (name, f)) (hid : f.load? = some id)
    (hp : s.world.progress? id = some (.delivered .loaded)) :
    step (.poll place) s =
      let came := f.come s.world.hosts
      { value := .polled came.value
        state := { s with
          world := { s.world with hosts := came.state }
          futures := s.futures.eraseIdx place }
        calls := came.calls
        events := came.events } := by
  rw [step_poll_eq hf, Future.poll_of_told hid hp]
  simp [f.come_not_pending]

end

theorem step_init_of_loaded {s : WatchedScene η σ τ φ α} {handle selector : String}
    {h : Handle (WatchedHost η φ) (WatchedFactory η φ) α} {id : LoadId}
    (overrides : Option (Params α)) (name : String)
    (hh : s.handles.lookup handle = some h)
    (hloaded : s.world.Loaded h.gate h.polyfillUrl id)
    (hm : (Host.hasMatch h.host.host selector s.world.hosts).value = true)
    (hs : (Host.supportsShadowDom h.host.host
      (Host.hasMatch h.host.host selector s.world.hosts).state).value = false) :
    step (.init handle selector overrides name) s =
      let asked := Host.hasMatch h.host.host selector s.world.hosts
      let support := Host.supportsShadowDom h.host.host asked.state
      { value := .done
        state := { s with
          world := { s.world with hosts := support.state }
          futures := s.futures ++ [(name, .binding (h.pending selector overrides (some id)))] }
        calls := [.hasMatch h.host.host selector, .supportsShadowDom h.host.host]
        events := h.ignored overrides } := by
  have hready (hosts : σ) := Gate.ready_of_loaded (w := ⟨hosts, s.world.loads⟩)
    (hloaded.congr rfl) h.host
  rw [step_init_of_polyfilled overrides name hh hm hs]
  simp only [hready, List.append_nil]

/-- A gate has a URL loaded just if some poll has found a load of it for the URL to have succeeded.
From then on, whatever is done, it has the URL loaded, and there is one load that everybody gets
who asks it for the URL. Who asks it directly, through whatever host, gets the load without a
question to the host. An init whose selector matches gets it on a host without shadow DOM by the
two questions of every init. None of them begins a load. A poll of what waits for the load never
leaves it waiting: what was asked of the gate is ready, and a creation is instantiated, with no
script loaded. -/
theorem loaded_iff_found_and_stays (hosts : σ) (steps : List (WatchedStep η σ φ α))
    (gate : GateId) (url : String) :
    let start : WatchedScene η σ τ φ α := initial hosts
    let s := start.after steps
    (Gate.isLoaded s.world gate url = true ↔
      ∃ before place rest id, steps = before ++ .poll place :: rest ∧
        (start.after before).FindsLoaded place gate url id) ∧
    (Gate.isLoaded s.world gate url = true → ∃ id, ∀ more : List (WatchedStep η σ φ α),
      let now := s.after more
      Gate.isLoaded now.world gate url = true ∧
      (∀ host name, step (.ready gate host url name) now =
        { value := .done
          state := { now with futures := now.futures ++ [(name, .ready url id)] } }) ∧
      (∀ handle h selector overrides name, now.handles.lookup handle = some h →
        h.gate = gate → h.polyfillUrl = url →
        let host := h.host.host
        let asked := Host.hasMatch host selector now.world.hosts
        let support := Host.supportsShadowDom host asked.state
        asked.value = true → support.value = false →
        step (.init handle selector overrides name) now =
          { value := .done
            state := { now with
              world := { now.world with hosts := support.state }
              futures := now.futures ++
                [(name, .binding (h.pending selector overrides (some id)))] }
            calls := [.hasMatch host selector, .supportsShadowDom host]
            events := h.ignored overrides }) ∧
      (∀ place name url', now.futures[place]? = some (name, .ready url' id) →
        step (.poll place) now =
          { value := .polled .ready
            state := { now with futures := now.futures.eraseIdx place } }) ∧
      ∀ place name p, now.futures[place]? = some (name, .binding p) → p.load = some id →
        let came := (Future.binding p).come now.world.hosts
        step (.poll place) now =
          { value := .polled came.value
            state := { now with
              world := { now.world with hosts := came.state }
              futures := now.futures.eraseIdx place }
            calls := came.calls
            events := came.events } ∧
        came.value.isInstantiated = true ∧
        ∀ host script, .loadScript host script ∉ came.calls) := by
  intro start s
  refine ⟨isLoaded_iff_found hosts steps, fun hloaded => ?_⟩
  obtain ⟨id, hloaded⟩ := Gate.isLoaded_iff.mp hloaded
  refine ⟨id, fun more => ?_⟩
  intro now
  have hnow : now.world.Loaded gate url id :=
    ((reachable_initial hosts).after steps).loaded_after hloaded more
  refine ⟨Gate.isLoaded_iff.mpr ⟨id, hnow⟩, step_ready_of_loaded hnow, ?_, ?_, ?_⟩
  · rintro handle h selector overrides name hh rfl rfl host asked support hm hs
    exact step_init_of_loaded overrides name hh hnow hm hs
  · intro place name url' hf
    exact step_poll_of_told hf rfl hnow.told
  · intro place name p hf hload came
    refine ⟨step_poll_of_told hf hload hnow.told, Future.come_isInstantiated p _, ?_⟩
    intro host script hscript
    obtain ⟨creates, hcalls, hcreates⟩ := p.instantiate_calls now.world.hosts
    rw [Future.come_calls, hcalls, List.mem_cons, List.mem_cons] at hscript
    obtain h | h | h := hscript
    · exact nomatch h
    · exact nomatch h
    · obtain ⟨node, args, h⟩ := hcreates _ h
      exact nomatch h

end Scene

end CreationLoader
