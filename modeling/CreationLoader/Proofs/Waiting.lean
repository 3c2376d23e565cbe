import CreationLoader.Proofs.Steps
import CreationLoader.Simulation.Host

/-!
# Whoever waits for a load gets its outcome

A step that asks a gate leaves something that waits, for the load that the gate keeps after the
step. Other loads for the URL may follow, and others who wait may be told or give up; what waits
still gets the outcome of its own load, and nothing before there is one.
-/

namespace CreationLoader
open Simulation (HostRef Hosts)

variable {η σ κ ν τ φ α β ι : Type} [Host η σ κ ν τ] [Factory φ σ κ ν α β ι]

namespace Scene
variable {s : Scene η σ τ φ α} {gate : GateId} {url : String}

/-- Who asks a gate waits for the load that the gate then keeps for the URL, which is a new one
if and only if the gate was due to begin one. From then on, in whatever order things happen, a
poll of anybody who waits for this load is pending while it is open, and otherwise gives its
outcome, which never changes: a success lets what waits go on, and a failure is reported with
the URL that was asked for and the load's own reason. -/
theorem waiter_gets_joined_outcome {x : Step η σ φ α} {name : String} {f : Future η φ α}
    {id : Nat} (hs : s.Reachable) (hx : s.asks x = some (gate, url))
    (hf : (step x s).state.futures = s.futures ++ [(name, f)]) (hid : f.load? = some id) :
    f.url = url ∧ (step x s).state.world.current? gate url = some id ∧
    (s.world.isDue gate url = true → id = s.world.loads.length) ∧
    (s.world.isDue gate url = false → s.world.current? gate url = some id) ∧
    ∀ more : List (Step η σ φ α),
      let now := (step x s).state.after more
      ∃ l, now.world.loads[id]? = some l ∧ l.isFor gate url = true ∧
        (∀ place name g, now.futures[place]? = some (name, g) → g.load? = some id →
          g.url = url ∧
          (step (.poll place) now).value = .polled (g.answer now.world.hosts l.outcome?) ∧
          (g.answer now.world.hosts l.outcome?).isPending = l.isOpen) ∧
        ∀ o, l.outcome? = some o → ∀ later : List (Step η σ φ α),
          ∃ m, (now.after later).world.loads[id]? = some m ∧ m.outcome? = some o := by
  obtain ⟨host, w, hw, hworld, hvalue, hurl⟩ := asked hx hf hid
  have hcurrent : (step x s).state.world.current? gate url = some id := by
    rw [hworld, hvalue]
    exact Gate.ready_current? gate host url w
  refine ⟨hurl, hcurrent, ?_, ?_, ?_⟩
  · intro hdue
    rw [← World.isDue_congr hw] at hdue
    rw [hvalue, Gate.ready_of_isDue host hdue, Gate.start_apply, hw]
  · intro hdue
    rw [← World.isDue_congr hw] at hdue
    obtain ⟨id', l, hc, -, he⟩ := Gate.ready_of_not_isDue host hdue
    rw [hvalue, he, ← hc, World.current?_congr hw]
  · intro more now
    obtain ⟨l₀, hl₀, hfor₀, -⟩ := World.current?_eq_some hcurrent
    obtain ⟨l, hl, hg⟩ := after_grows more _ id l₀ hl₀
    have hfor : l.isFor gate url = true := by rw [hg.isFor, hfor₀]
    refine ⟨l, hl, hfor, ?_, ?_⟩
    · intro place name g hplace hgid
      have hbound := ((hs.step x).after more).bound _ (List.mem_of_getElem? hplace)
      obtain ⟨n, hn, hgurl⟩ := hbound id hgid
      obtain rfl := Option.some.inj (hl.symm.trans hn)
      refine ⟨hgurl.symm.trans (Load.isFor_iff.mp hfor).2, ?_, ?_⟩
      · rw [step_poll_of_future hplace, Future.poll_value hgid hl]
      · rw [Future.answer_isPending, Load.isOpen_eq]
    · intro o ho later
      obtain ⟨m, hm, hgrows⟩ := after_grows later _ id l hl
      exact ⟨m, hm, hgrows.outcome o ho⟩

/-- Two wait for a load that fails, and the second is told. The first is polled only when the load
has been begun again and has succeeded, and still learns of the failure. -/
theorem waiter_gets_failure_after_retry :
    let start : Scene HostRef Hosts HostRef Simulation.Factory Json.Value := initial []
    let ask (name : String) : Step HostRef Hosts Simulation.Factory Json.Value :=
      .ready (.named "gate") ⟨"page"⟩ "url" name
    let more := [ask "second", .settle 0 (.failed "404"), .poll 1, ask "third", .settle 1 .loaded,
      .poll 1]
    ((step (ask "first") start).state.after more).world.progress? 1 = some (.delivered .loaded) ∧
      (step (.poll 0) ((step (ask "first") start).state.after more)).value =
        .polled (.failed (.polyfillFailed "url" "404")) := by
  intro start ask more
  obtain ⟨-, -, -, -, h⟩ := waiter_gets_joined_outcome (s := start) (x := ask "first")
    (f := .ready "url" (0 : Nat)) (reachable_initial []) rfl rfl rfl
  obtain ⟨l, hl, -, hpoll, -⟩ := h more
  have hfuture : (((step (ask "first") start).state.after more).futures[0]?).map
      (fun e => e.2.load?) = some (some 0) := by decide +kernel
  obtain ⟨⟨name, g⟩, hplace, hg⟩ := Option.map_eq_some_iff.mp hfuture
  obtain ⟨hurl, hvalue, -⟩ := hpoll 0 name g hplace hg
  have hp : ((step (ask "first") start).state.after more).world.progress? 0 =
      some (.delivered (.failed "404")) := by decide +kernel
  have ho : l.outcome? = some (.failed "404") := by
    rw [World.progress?, hl] at hp
    exact Load.outcome?_of_delivered (Option.some.inj hp)
  refine ⟨by decide +kernel, ?_⟩
  rw [hvalue, ho, Future.answer, hurl]

end Scene

end CreationLoader
