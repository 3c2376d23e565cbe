import CreationLoader.Proofs.Provenance
import CreationLoader.Proofs.Retry

/-!
# Beginning to bind

What a call of init asks for at once, and what it leaves. It asks for a match before all else, and
if there is none it only writes its line. It asks a gate for the polyfill only where shadow DOM is
not supported, and the gate has a script loaded only if it has to begin a load. Factories are left
alone until the creation is polled.
-/

namespace CreationLoader
open Simulation (HostRef Hosts)

variable {η σ κ ν τ φ α β ι : Type} [Host η σ κ ν τ] [Factory φ σ κ ν α β ι]

namespace Handle
variable {h : Handle (WatchedHost η φ) (WatchedFactory η φ) α} {selector : String} {w : World σ τ}
  (overrides : Option (Params α))

theorem init_watched_of_no_match
    (hm : (Host.hasMatch h.host.host selector w.hosts).value = false) :
    h.init selector overrides w =
      let asked := Host.hasMatch h.host.host selector w.hosts
      let line := "Wooble error : Element " ++ selector ++ " not found in the document"
      { value := .error (.targetNotFound selector)
        state := { w with hosts := (Host.log h.host.host line asked.state).state }
        calls := [.hasMatch h.host.host selector, .log h.host.host line]
        events := [.aborted (.targetNotFound selector)] } := by
  have hline := abort_watched h.host (e := .targetNotFound selector)
    (Host.hasMatch h.host.host selector w.hosts).state rfl
  rw [init_of_no_match overrides hm]
  simp only [watched_hasMatch, hline, List.singleton_append, List.nil_append]

section
variable (hm : (Host.hasMatch h.host.host selector w.hosts).value = true)
include hm

theorem init_watched_of_native
    (hs : (Host.supportsShadowDom h.host.host
      (Host.hasMatch h.host.host selector w.hosts).state).value = true) :
    h.init selector overrides w =
      let asked := Host.hasMatch h.host.host selector w.hosts
      let support := Host.supportsShadowDom h.host.host asked.state
      { value := .ok (h.pending selector overrides none)
        state := { w with hosts := support.state }
        calls := [.hasMatch h.host.host selector, .supportsShadowDom h.host.host]
        events := h.ignored overrides } := by
  rw [init_of_native overrides hm hs]
  simp

variable (hs : (Host.supportsShadowDom h.host.host
    (Host.hasMatch h.host.host selector w.hosts).state).value = false)
include hs

theorem init_watched_of_polyfilled :
    h.init selector overrides w =
      let asked := Host.hasMatch h.host.host selector w.hosts
      let support := Host.supportsShadowDom h.host.host asked.state
      let joined := Gate.ready h.gate h.host h.polyfillUrl { w with hosts := support.state }
      { value := .ok (h.pending selector overrides (some joined.value))
        state := joined.state
        calls := .hasMatch h.host.host selector :: .supportsShadowDom h.host.host :: joined.calls
        events := h.ignored overrides ++ joined.events } := by
  rw [init_of_polyfilled overrides hm hs]
  simp

end

end Handle

namespace Scene

section
variable {s : WatchedScene η σ τ φ α} {handle selector : String}
  {h : Handle (WatchedHost η φ) (WatchedFactory η φ) α} (overrides : Option (Params α))
  (name : String) (hh : s.handles.lookup handle = some h)
include hh

theorem step_init_of_no_match
    (hm : (Host.hasMatch h.host.host selector s.world.hosts).value = false) :
    step (.init handle selector overrides name) s =
      let asked := Host.hasMatch h.host.host selector s.world.hosts
      let line := "Wooble error : Element " ++ selector ++ " not found in the document"
      { value := .failed (.targetNotFound selector)
        state := { s with
          world := { s.world with hosts := (Host.log h.host.host line asked.state).state } }
        calls := [.hasMatch h.host.host selector, .log h.host.host line]
        events := [.aborted (.targetNotFound selector)] } := by
  have hinit := h.init_watched_of_no_match overrides hm
  rw [step_init_of_error name hh (congrArg Effect.value hinit), hinit]

variable (hm : (Host.hasMatch h.host.host selector s.world.hosts).value = true)
include hm

theorem step_init_of_native
    (hs : (Host.supportsShadowDom h.host.host
      (Host.hasMatch h.host.host selector s.world.hosts).state).value = true) :
    step (.init handle selector overrides name) s =
      let asked := Host.hasMatch h.host.host selector s.world.hosts
      let support := Host.supportsShadowDom h.host.host asked.state
      { value := .done
        state := { s with
          world := { s.world with hosts := support.state }
          futures := s.futures ++ [(name, .binding (h.pending selector overrides none))] }
        calls := [.hasMatch h.host.host selector, .supportsShadowDom h.host.host]
        events := h.ignored overrides } := by
  have hinit := h.init_watched_of_native overrides hm hs
  rw [step_init_of_ok name hh (congrArg Effect.value hinit), hinit]

variable (hs : (Host.supportsShadowDom h.host.host
    (Host.hasMatch h.host.host selector s.world.hosts).state).value = false)
include hs

theorem step_init_of_polyfilled :
    step (.init handle selector overrides name) s =
      let asked := Host.hasMatch h.host.host selector s.world.hosts
      let support := Host.supportsShadowDom h.host.host asked.state
      let joined := Gate.ready h.gate h.host h.polyfillUrl ⟨support.state, s.world.loads⟩
      { value := .done
        state := { s with
          world := joined.state
          futures := s.futures ++
            [(name, .binding (h.pending selector overrides (some joined.value)))] }
        calls := .hasMatch h.host.host selector :: .supportsShadowDom h.host.host :: joined.calls
        events := h.ignored overrides ++ joined.events } := by
  have hinit := h.init_watched_of_polyfilled overrides hm hs
  rw [step_init_of_ok name hh (congrArg Effect.value hinit), hinit]

theorem step_init_of_due (hdue : s.world.isDue h.gate h.polyfillUrl = true) :
    ∃ events, step (.init handle selector overrides name) s =
      let asked := Host.hasMatch h.host.host selector s.world.hosts
      let support := Host.supportsShadowDom h.host.host asked.state
      let script := Host.loadScript h.host.host h.polyfillUrl support.state
      { value := .done
        state := { s with
          world :=
            { hosts := script.state
              loads := s.world.loads ++ [Gate.begun h.gate h.polyfillUrl script.value] }
          futures := s.futures ++
            [(name, .binding (h.pending selector overrides (some s.world.loads.length)))] }
        calls := [.hasMatch h.host.host selector, .supportsShadowDom h.host.host,
          .loadScript h.host.host h.polyfillUrl]
        events } := by
  have hready (hosts : σ) := Gate.ready_of_isDue (w := ⟨hosts, s.world.loads⟩) h.host hdue
  rw [step_init_of_polyfilled overrides name hh hm hs]
  simp only [hready, Gate.start_apply]
  exact ⟨_, rfl⟩

theorem step_init_of_not_due (hdue : s.world.isDue h.gate h.polyfillUrl = false) :
    ∃ (id : LoadId) (events : List Event), s.world.current? h.gate h.polyfillUrl = some id ∧
      step (.init handle selector overrides name) s =
        let asked := Host.hasMatch h.host.host selector s.world.hosts
        let support := Host.supportsShadowDom h.host.host asked.state
        { value := .done
          state := { s with
            world := { s.world with hosts := support.state }
            futures := s.futures ++ [(name, .binding (h.pending selector overrides (some id)))] }
          calls := [.hasMatch h.host.host selector, .supportsShadowDom h.host.host]
          events } := by
  obtain ⟨id, l, hc, -, hready⟩ := Gate.ready_of_not_isDue h.host (w := ⟨(Host.supportsShadowDom
    h.host.host (Host.hasMatch h.host.host selector s.world.hosts).state).state, _⟩) hdue
  rw [step_init_of_polyfilled overrides name hh hm hs]
  simp only [hready]
  exact ⟨id, _, hc, rfl⟩

end

/-- A handle is constructed by one of the steps, on a loader from which it has its host, its gate
and the URL of its polyfill. -/
theorem exists_constructing_loader {hosts : σ} {steps : List (Step η σ φ α)} {handle : String}
    {h : Handle η φ α}
    (hh : ((initial hosts : Scene η σ τ φ α).after steps).handles.lookup handle = some h) :
    let start : Scene η σ τ φ α := initial hosts
    ∃ before loader name rest l, steps = before ++ .construct loader h.id name :: rest ∧
      (start.after before).loaders.lookup loader = some l ∧
      (step (.construct loader h.id name) (start.after before)).value = .handle h ∧
      h.host = l.host ∧ h.gate = l.gate ∧ h.polyfillUrl = l.config.polyfillUrl := by
  intro start
  obtain ⟨before, loader, name, rest, l, hsteps, hl, -, hv, -⟩ :=
    constructed_of_mem steps _ (Association.mem_of_lookup hh)
  obtain ⟨l', hl', hc⟩ := construct_answers_handle hv
  obtain rfl : l = l' := Option.some.inj (hl.symm.trans hl')
  obtain ⟨-, heq⟩ := Loader.construct_ok_eq hc
  exact ⟨before, loader, name, rest, l, hsteps, hl, hv, congrArg Handle.host heq,
    congrArg Handle.gate heq, congrArg Handle.polyfillUrl heq⟩

/-- What one call of init does, whatever has happened before. The handle has its host, gate and URL
from the loader that has constructed it. If nothing matches, and only then, the call fails: it has
asked for the match and written its line, and what is on record and being waited for is as it was.
Otherwise there is something to wait for. With native support no load is begun or joined, and
another record of loads would make no difference. Without it, the gate has the script at the
loader's URL loaded if it has begun no load for the URL or if a poll has told that the last has
failed, and nothing is loaded if not. A factory is never asked for anything. -/
theorem init_asks_match_then_support_then_load {hosts : σ} {steps : List (WatchedStep η σ φ α)}
    {handle : String} {h : Handle (WatchedHost η φ) (WatchedFactory η φ) α}
    (hh : ((initial hosts : WatchedScene η σ τ φ α).after steps).handles.lookup handle = some h)
    (selector : String) (overrides : Option (Params α)) (name : String) :
    let start : WatchedScene η σ τ φ α := initial hosts
    let s := start.after steps
    let host := h.host.host
    let url := h.polyfillUrl
    let init := .init handle selector overrides name
    let result := step init s
    let asked := Host.hasMatch host selector s.world.hosts
    let support := Host.supportsShadowDom host asked.state
    let due := (∀ l ∈ s.world.loads, l.isFor h.gate url = false) ∨
      ∃ id reason, s.world.current? h.gate url = some id ∧ start.Told steps id url reason
    let waiting (load : Option LoadId) :=
      s.futures ++ [(name, .binding (h.pending selector overrides load))]
    (∃ before loader made rest l, steps = before ++ .construct loader h.id made :: rest ∧
      (start.after before).loaders.lookup loader = some l ∧
      (step (.construct loader h.id made) (start.after before)).value = .handle h ∧
      h.host = l.host ∧ h.gate = l.gate ∧ url = l.config.polyfillUrl) ∧
    (result.value = .failed (.targetNotFound selector) ↔ asked.value = false) ∧
    (asked.value = false →
      let line := "Wooble error : Element " ++ selector ++ " not found in the document"
      result =
        { value := .failed (.targetNotFound selector)
          state := { s with
            world := { s.world with hosts := (Host.log host line asked.state).state } }
          calls := [.hasMatch host selector, .log host line]
          events := [.aborted (.targetNotFound selector)] }) ∧
    (asked.value = true → support.value = true → ∀ loads : List (Load τ),
      step init { s with world := { s.world with loads } } =
        { value := .done
          state := { s with world := ⟨support.state, loads⟩, futures := waiting none }
          calls := [.hasMatch host selector, .supportsShadowDom host]
          events := h.ignored overrides }) ∧
    (asked.value = true → support.value = false → due →
      let script := Host.loadScript host url support.state
      let loads := s.world.loads ++ [Gate.begun h.gate url script.value]
      result =
        { result with
          value := .done
          state := { s with
            world := ⟨script.state, loads⟩, futures := waiting (some s.world.loads.length) }
          calls := [.hasMatch host selector, .supportsShadowDom host, .loadScript host url] }) ∧
    (asked.value = true → support.value = false → ¬ due →
      ∃ id, s.world.current? h.gate url = some id ∧ result =
        { result with
          value := .done
          state := { s with
            world := ⟨support.state, s.world.loads⟩, futures := waiting (some id) }
          calls := [.hasMatch host selector, .supportsShadowDom host] }) ∧
    ∀ request ∈ result.calls, (∀ factory params, request ≠ .prepare factory params) ∧
      ∀ factory node args, request ≠ .create factory node args := by
  intro start s host url init result asked support due waiting
  have hdue : s.world.isDue h.gate url = true ↔ due := isDue_iff_told
  have hnone (hm : asked.value = false) : result = _ :=
    step_init_of_no_match overrides name hh hm
  have hnative (hm : asked.value = true) (hs : support.value = true) (loads : List (Load τ)) :
      step init { s with world := { s.world with loads } } = _ :=
    step_init_of_native (s := { s with world := { s.world with loads } }) overrides name hh hm hs
  have hbegun (hm : asked.value = true) (hs : support.value = false) (h : due) :=
    step_init_of_due overrides name hh hm hs (hdue.mpr h)
  have hjoined (hm : asked.value = true) (hs : support.value = false) (h : ¬ due) :=
    step_init_of_not_due overrides name hh hm hs (by simpa using mt hdue.mp h)
  have hdone (hm : asked.value = true) : result.value = .done ∧ ∃ scripts,
      result.calls = .hasMatch host selector :: .supportsShadowDom host :: scripts ∧
        ∀ request ∈ scripts, request = .loadScript host url := by
    cases hs : support.value with
    | true =>
      have hresult : result = _ := hnative hm hs s.world.loads
      rw [hresult]
      exact ⟨rfl, [], rfl, by simp⟩
    | false =>
      by_cases h : due
      · obtain ⟨events, hresult⟩ := hbegun hm hs h
        rw [show result = _ from hresult]
        exact ⟨rfl, [.loadScript host url], rfl, by simp⟩
      · obtain ⟨id, events, -, hresult⟩ := hjoined hm hs h
        rw [show result = _ from hresult]
        exact ⟨rfl, [], rfl, by simp⟩
  refine ⟨exists_constructing_loader hh, ⟨?_, ?_⟩, hnone, hnative, ?_, ?_, ?_⟩
  · intro hfailed
    by_contra hm
    have hvalue := (hdone (by simpa using hm)).1
    rw [hfailed] at hvalue
    exact nomatch hvalue
  · intro hm
    rw [hnone hm]
  · intro hm hs h
    obtain ⟨events, hresult⟩ := hbegun hm hs h
    rw [show result = _ from hresult]
  · intro hm hs h
    obtain ⟨id, events, hc, hresult⟩ := hjoined hm hs h
    exact ⟨id, hc, by rw [show result = _ from hresult]⟩
  · intro request hrequest
    cases hm : asked.value with
    | false =>
      rw [hnone hm] at hrequest
      simp only [List.mem_cons, List.not_mem_nil, or_false] at hrequest
      obtain rfl | rfl := hrequest <;> exact ⟨nofun, nofun⟩
    | true =>
      obtain ⟨-, scripts, hcalls, hscripts⟩ := hdone hm
      rw [hcalls, List.mem_cons, List.mem_cons] at hrequest
      obtain rfl | rfl | hscript := hrequest
      · exact ⟨nofun, nofun⟩
      · exact ⟨nofun, nofun⟩
      · obtain rfl := hscripts _ hscript
        exact ⟨nofun, nofun⟩

/-- The load that the first init has begun fails, and the poll of what waits for it tells so. The
second init has the script loaded again, at the URL of the loader's configuration. -/
theorem second_init_loads_after_told_failure :
    let factory : WatchedFactory HostRef Simulation.Factory := ⟨.closure "made" []⟩
    let page : Simulation.Page := { shadowDom := false, nodes := [("div", [1])] }
    let steps : List (WatchedStep HostRef Hosts Simulation.Factory Json.Value) :=
      [.loader "loader" (.ofRegistrations [("id", ⟨factory, ∅⟩)]) { polyfillUrl := "url" }
          ⟨⟨"page"⟩⟩ (some "gate"),
        .construct "loader" "id" "handle", .init "handle" "div" none "first",
        .settle 0 (.failed "404"), .poll 0]
    let start : WatchedScene HostRef Hosts HostRef Simulation.Factory Json.Value :=
      initial [("page", page)]
    (step (.init "handle" "div" none "second") (start.after steps)).calls =
      [.hasMatch ⟨"page"⟩ "div", .supportsShadowDom ⟨"page"⟩, .loadScript ⟨"page"⟩ "url"] := by
  intro factory page steps start
  have hfields : ((start.after steps).handles.lookup "handle").map
      (fun h => (h.host.host, h.gate, h.polyfillUrl)) = some (⟨"page"⟩, .named "gate", "url") := by
    decide +kernel
  obtain ⟨h, hh, hfields⟩ := Option.map_eq_some_iff.mp hfields
  obtain ⟨hhost, hgate, hurl⟩ : h.host.host = ⟨"page"⟩ ∧ h.gate = .named "gate" ∧
      h.polyfillUrl = "url" := by simpa using hfields
  obtain ⟨-, -, -, -, hload, -⟩ := init_asks_match_then_support_then_load hh "div" none "second"
  have hresult := hload (by rw [hhost]; decide +kernel) (by rw [hhost]; decide +kernel)
    (isDue_iff_told.mp (by rw [hgate, hurl]; decide +kernel))
  rw [hresult, hhost, hurl]

end Scene
end CreationLoader
