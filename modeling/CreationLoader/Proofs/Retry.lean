import CreationLoader.Proofs.Instances
import CreationLoader.Proofs.Succession
import CreationLoader.Simulation.Host

/-!
# When a failed load is begun again

A gate hears of a failure when what waits for the load is polled. Who asks after that has a new
load begun. Who asks before it joins the failed load, even if the host has long ended it.
-/

namespace CreationLoader
open Simulation (HostRef Hosts)

variable {η σ κ ν τ φ α β ι : Type} [Host η σ κ ν τ] [Factory φ σ κ ν α β ι]

namespace Scene
variable {hosts : σ} {steps : List (Step η σ φ α)} {gate : GateId} {url reason : String}
  {id : Nat} {l : Load τ}

theorem delivered_of_told (htold : (initial hosts : Scene η σ τ φ α).Told steps id url reason)
    (hl : ((initial hosts : Scene η σ τ φ α).after steps).world.loads[id]? = some l) :
    l.progress = .delivered (.failed reason) := by
  obtain ⟨before, place, rest, name, f, rfl, hf, hid, hvalue⟩ := htold
  obtain ⟨n, hn, -⟩ := ((reachable_initial hosts).after before).bound _
    (List.mem_of_getElem? hf) id hid
  rw [step_poll_of_future hf, Future.poll_value hid hn] at hvalue
  have ho := Future.failed_of_answer (Answer.polled.inj hvalue)
  obtain ⟨m, hm, -, hp⟩ := delivered_of_poll rest hf hid hn ho
  obtain rfl := Option.some.inj (hl.symm.trans hm)
  exact hp

theorem told_iff (hl : ((initial hosts : Scene η σ τ φ α).after steps).world.loads[id]? = some l)
    (hurl : l.url = url) (ho : l.outcome? = some (.failed reason)) :
    (initial hosts : Scene η σ τ φ α).Told steps id url reason ↔
      l.progress.isToldFailure = true := by
  constructor
  · intro htold
    exact Progress.isToldFailure_iff.mpr ⟨reason, delivered_of_told htold hl⟩
  · intro htold
    obtain ⟨reason', hp⟩ := Progress.isToldFailure_iff.mp htold
    obtain ⟨rfl⟩ : reason = reason' := by
      simpa using ho.symm.trans (Load.outcome?_of_delivered hp)
    exact hurl ▸ told_of_delivered hl hp

/-- A gate has to begin a load for a URL if it has begun none, or if a poll has told that the last
has failed. -/
theorem isDue_iff_told :
    ((initial hosts : Scene η σ τ φ α).after steps).world.isDue gate url = true ↔
      (∀ l ∈ ((initial hosts : Scene η σ τ φ α).after steps).world.loads,
        l.isFor gate url = false) ∨
      ∃ id reason,
        ((initial hosts : Scene η σ τ φ α).after steps).world.current? gate url = some id ∧
          (initial hosts : Scene η σ τ φ α).Told steps id url reason := by
  rw [← World.current?_eq_none_iff]
  cases hc : ((initial hosts : Scene η σ τ φ α).after steps).world.current? gate url with
  | none => simp [World.isDue, hc]
  | some id =>
    obtain ⟨l, hl, hfor, -⟩ := World.current?_eq_some hc
    rw [World.isDue_of_current? hc hl, Progress.isToldFailure_iff]
    constructor
    · rintro ⟨reason, hp⟩
      exact .inr ⟨id, reason, rfl, (Load.isFor_iff.mp hfor).2 ▸ told_of_delivered hl hp⟩
    · rintro (hnone | ⟨id', reason, hid, htold⟩)
      · exact absurd hnone (Option.some_ne_none id)
      · obtain rfl := Option.some.inj hid
        exact ⟨reason, delivered_of_told htold hl⟩

theorem joined_of_not_told {s : Scene η σ τ φ α} (hcurrent : s.world.current? gate url = some id)
    (hl : s.world.loads[id]? = some l) (ho : l.outcome? = some (.failed reason)) (host : η)
    {w : World σ τ} (hw : w.loads = s.world.loads) (hdue : s.world.isDue gate url = false) :
    Gate.ready gate host url w = { value := id, state := w, events := [.loadJoined url] } := by
  rw [← World.isDue_congr hw] at hdue
  obtain ⟨id', m, hc, hm, hready⟩ := Gate.ready_of_not_isDue host hdue
  rw [World.current?_congr hw, hcurrent] at hc
  obtain rfl := Option.some.inj hc
  obtain rfl := Option.some.inj (hl.symm.trans (hw ▸ hm))
  have hp : l.progress ≠ .delivered .loaded := by
    intro hp
    exact nomatch ho.symm.trans (Load.outcome?_of_delivered hp)
  rw [hready, if_neg hp]

/-- When the last load of a gate for a URL has failed, the next who asks has a new one begun if
and only if a poll has told the failure; otherwise nothing is asked of the host, and who asks
waits for the failed load. -/
theorem failed_load_begun_again_iff_told
    (hcurrent : ((initial hosts : Scene η σ τ φ α).after steps).world.current? gate url = some id)
    (hl : ((initial hosts : Scene η σ τ φ α).after steps).world.loads[id]? = some l)
    (ho : l.outcome? = some (.failed reason)) :
    let start : Scene η σ τ φ α := initial hosts
    let s := start.after steps
    (start.Told steps id url reason →
      (∀ (host : η) (w : World σ τ), w.loads = s.world.loads →
        (Gate.ready gate host url w).value = w.loads.length ∧
        (Gate.ready gate host url w).calls = (Host.loadScript host url w.hosts).calls) ∧
      ∀ x name f (k : Nat), s.asks x = some (gate, url) →
        (step x s).state.futures = s.futures ++ [(name, f)] → f.load? = some k →
        s.Begins x k gate url) ∧
    (¬ start.Told steps id url reason →
      (∀ (host : η) (w : World σ τ), w.loads = s.world.loads →
        Gate.ready gate host url w = { value := id, state := w, events := [.loadJoined url] }) ∧
      ∀ x name f (k : Nat), s.asks x = some (gate, url) →
        (step x s).state.futures = s.futures ++ [(name, f)] → f.load? = some k →
        k = id ∧ (step x s).state.world.loads = s.world.loads) := by
  intro start s
  have hurl : l.url = url := by
    obtain ⟨m, hm, hfor, -⟩ := World.current?_eq_some hcurrent
    obtain rfl := Option.some.inj (hl.symm.trans hm)
    exact (Load.isFor_iff.mp hfor).2
  have hdue : s.world.isDue gate url = l.progress.isToldFailure :=
    World.isDue_of_current? hcurrent hl
  rw [told_iff hl hurl ho, ← hdue]
  refine ⟨fun htold => ⟨?_, ?_⟩, fun htold => ⟨?_, ?_⟩⟩
  · intro host w hw
    rw [Gate.ready_of_isDue host (World.isDue_congr hw gate url ▸ htold), Gate.start_apply]
    exact ⟨rfl, rfl⟩
  · intro x name f k hx hf hk
    obtain ⟨host, w, hw, hworld, rfl, -⟩ := asked hx hf hk
    have hready := Gate.ready_of_isDue host (World.isDue_congr hw gate url ▸ htold)
    refine ⟨?_, htold, host, w.hosts, ?_⟩
    · rw [hready, Gate.start_apply, hw]
    · rw [hworld, hready, Gate.start_apply, hw]
  · intro host w hw
    exact joined_of_not_told hcurrent hl ho host hw (by simpa using htold)
  · intro x name f k hx hf hk
    obtain ⟨host, w, hw, hworld, rfl, -⟩ := asked hx hf hk
    have hready := joined_of_not_told hcurrent hl ho host hw (by simpa using htold)
    rw [hworld, hready]
    exact ⟨rfl, hw⟩

/-- A load fails and what waits for it is polled: the next who asks has a new one begun. -/
theorem failed_load_begun_again_after_poll :
    let ask (name : String) : Step HostRef Hosts Simulation.Factory Json.Value :=
      .ready (.named "gate") ⟨"page"⟩ "url" name
    let start : Scene HostRef Hosts HostRef Simulation.Factory Json.Value := initial []
    (start.after [ask "first", .settle 0 (.failed "404"), .poll 0]).Begins (ask "second") 1
      (.named "gate") "url" := by
  intro ask start
  have hl : (start.after [ask "first", .settle 0 (.failed "404"), .poll 0]).world.loads[0]? =
      some ⟨some (.named "gate"), "url", ⟨"page"⟩, .delivered (.failed "404")⟩ := rfl
  have hcurrent : (start.after [ask "first", .settle 0 (.failed "404"), .poll 0]).world.current?
      (.named "gate") "url" = some 0 := by decide +kernel
  have hagain := (failed_load_begun_again_iff_told hcurrent hl rfl).1
    ((told_iff hl rfl rfl).mpr rfl)
  exact hagain.2 (ask "second") "second" (.ready "url" 1) 1 rfl rfl rfl

/-- A load fails and nobody is polled before the next asks: no new one is begun. -/
theorem failed_load_not_begun_again :
    let ask (name : String) : Step HostRef Hosts Simulation.Factory Json.Value :=
      .ready (.named "gate") ⟨"page"⟩ "url" name
    ¬ ∀ s : Scene HostRef Hosts HostRef Simulation.Factory Json.Value, s.Reachable →
      ∀ (id : Nat) (l : Load HostRef) (reason : String),
        s.world.current? (.named "gate") "url" = some id → s.world.loads[id]? = some l →
        l.outcome? = some (.failed reason) →
        s.Begins (ask "second") s.world.loads.length (.named "gate") "url" := by
  intro ask h
  let start : Scene HostRef Hosts HostRef Simulation.Factory Json.Value := initial []
  let s := start.after [ask "first", .settle 0 (.failed "404")]
  have hl : s.world.loads[0]? =
      some ⟨some (.named "gate"), "url", ⟨"page"⟩, .settled (.failed "404")⟩ := rfl
  obtain ⟨-, hdue, -⟩ := h s ((reachable_initial []).after _) 0 _ "404" (by decide +kernel) hl rfl
  have hnot : s.world.isDue (.named "gate") "url" = false := by decide +kernel
  rw [hnot] at hdue
  exact nomatch hdue

end Scene

end CreationLoader
