import CreationLoader.Proofs.Following
import CreationLoader.Proofs.Polling
import CreationLoader.Simulation.Host

/-!
# Polls in either order

A poll is no mere look: it tells the outcome of a load, and so changes what later asks for the
same script find. Still it makes no difference which of two is polled first, as long as making
instances leaves the pages as they are: only the warning that the load has failed, if both wait
for it, comes with whichever is polled first.
-/

namespace CreationLoader
open Simulation (HostRef Hosts)

variable {η σ κ ν τ φ α β ι π ρ θ : Type}

namespace Action

/-- Hangs on nothing of a state but what the page shows, and leaves that as it is. -/
structure Steady (page : σ → π) (x : Action σ κ ρ) : Prop where
  value : ∀ {s t}, page s = page t → (x s).value = (x t).value
  calls : ∀ {s t}, page s = page t → (x s).calls = (x t).calls
  events : ∀ {s t}, page s = page t → (x s).events = (x t).events
  kept : ∀ s, page (x s).state = page s

variable {page : σ → π}

theorem steady_pure (a : ρ) : (pure a : Action σ κ ρ).Steady page :=
  ⟨fun _ => rfl, fun _ => rfl, fun _ => rfl, fun _ => rfl⟩

theorem steady_report (e : Event) : (report e : Action σ κ Unit).Steady page :=
  ⟨fun _ => rfl, fun _ => rfl, fun _ => rfl, fun _ => rfl⟩

theorem steady_of_unchanged {x : Action σ κ ρ} (h : ∀ s, (x s).state = s) : x.Steady id := by
  refine ⟨?_, ?_, ?_, h⟩ <;>
    · rintro s _ rfl
      rfl

theorem Steady.bind {x : Action σ κ ρ} {f : ρ → Action σ κ θ} (hx : x.Steady page)
    (hf : ∀ a, (f a).Steady page) : (x >>= f).Steady page := by
  have hnext : ∀ {s t}, page s = page t → page (x s).state = page (x t).state := by
    intro s t h
    rw [hx.kept, hx.kept, h]
  constructor
  · intro s t h
    simp only [bind_apply, hx.value h]
    exact (hf _).value (hnext h)
  · intro s t h
    simp only [bind_apply, hx.value h, hx.calls h, (hf _).calls (hnext h)]
  · intro s t h
    simp only [bind_apply, hx.value h, hx.events h, (hf _).events (hnext h)]
  · intro s
    rw [bind_apply, (hf _).kept, hx.kept]

end Action

variable [Host η σ κ ν τ] [Factory φ σ κ ν α β ι]

/-- Looking elements up, preparing parameters and making instances hang on what the page shows
and leave it as it is. -/
structure StillPages (η φ : Type) [Host η σ κ ν τ] [Factory φ σ κ ν α β ι] (page : σ → π) :
    Prop where
  queryAll : ∀ (host : η) (selector : String), (Host.queryAll host selector).Steady page
  prepare : ∀ (factory : φ) (params : Params α), (Factory.prepare factory params).Steady page
  create : ∀ (factory : φ) (node : ν) (args : β), (Factory.create factory node args).Steady page

variable {page : σ → π}

theorem StillPages.covers (h : StillPages η φ page) :
    Covers η φ fun (x : Action σ κ _) => x.Steady page where
  pure := Action.steady_pure
  bind := Action.Steady.bind
  queryAll := h.queryAll
  instantiating _ _ _ := Action.steady_report _
  prepare := h.prepare
  create := h.create
  creationFailed _ _ := Action.steady_report _

/-- Simulated pages only change by themselves. -/
theorem StillPages.simulated : StillPages HostRef Simulation.Factory (id : Hosts → Hosts) where
  queryAll _ _ := Action.steady_of_unchanged fun _ => rfl
  create _ _ _ := Action.steady_of_unchanged fun _ => rfl
  prepare factory params := Action.steady_of_unchanged fun hosts => by
    cases h : factory.prepares <;> simp [Factory.prepare, h]

namespace Future
variable {f g : Future η φ α} {w : World σ τ}

theorem page_poll (h : StillPages η φ page) (f : Future η φ α) (w : World σ τ) :
    page (f.poll w).state.hosts = page w.hosts := by
  rw [poll_hosts]
  exact (proceed_of_covers h.covers f _).kept _

/-- Another poll before it leaves a poll its result, and the record has been told of both. -/
theorem poll_after_poll (h : StillPages η φ page) (f g : Future η φ α) (w : World σ τ) :
    (g.poll (f.poll w).state).value = (g.poll w).value ∧
      (g.poll (f.poll w).state).calls = (g.poll w).calls ∧
      (g.poll (f.poll w).state).state.loads = g.tell (f.tell w.loads) ∧
      page (g.poll (f.poll w).state).state.hosts = page w.hosts := by
  have hsteady := proceed_of_covers h.covers g (g.outcome? w.loads)
  have hpage := page_poll h f w
  refine ⟨?_, ?_, ?_, ?_⟩
  · rw [poll_gives, poll_gives, poll_tells, outcome?_tell, hsteady.value hpage]
  · rw [poll_calls, poll_calls, poll_tells, outcome?_tell, hsteady.calls hpage]
  · rw [poll_tells, poll_tells]
  · rw [page_poll h, hpage]

theorem events_after_poll (h : StillPages η φ page) (f g : Future η φ α) (w : World σ τ) :
    (g.poll (f.poll w).state).events =
      g.news (f.tell w.loads) ++ (g.proceed (g.outcome? w.loads) w.hosts).events := by
  have hsteady := proceed_of_covers h.covers g (g.outcome? w.loads)
  rw [poll_events, poll_tells, outcome?_tell, hsteady.events (page_poll h f w)]

theorem events_of_failed {id : LoadId} {l : Load τ} {reason : String} (hf : f.load? = some id)
    (hl : w.loads[id]? = some l) (hp : l.progress = .settled (.failed reason)) :
    (f.proceed (f.outcome? w.loads) w.hosts).events = [] := by
  have ho : f.outcome? w.loads = some (.failed reason) := by
    simp [outcome?, hf, hl, Load.outcome?, Progress.outcome?, hp]
  rw [ho]
  rfl

/-- Both wait for one load that has failed, which nobody was told: who is polled first warns of
it, and that is all the two report. -/
def WarnOnce (f g : Future η φ α) (w : World σ τ) : Prop :=
  ∃ (id : LoadId) (l : Load τ) (reason : String), f.load? = some id ∧ g.load? = some id ∧
    w.loads[id]? = some l ∧ l.progress = .settled (.failed reason) ∧
    (f.poll w).events = [.loadFailed l.url reason] ∧ (g.poll (f.poll w).state).events = [] ∧
    (g.poll w).events = [.loadFailed l.url reason] ∧ (f.poll (g.poll w).state).events = []

theorem events_commute (h : StillPages η φ page) (f g : Future η φ α) (w : World σ τ) :
    ((f.poll (g.poll w).state).events = (f.poll w).events ∧
      (g.poll (f.poll w).state).events = (g.poll w).events) ∨ f.WarnOnce g w := by
  by_cases hload : f.load? = g.load?
  · rcases f.news_cases w.loads with hnone | ⟨id, l, reason, hf, hl, hp, hnews⟩
    · refine .inl ⟨?_, ?_⟩
      · rw [events_after_poll h, poll_events, news_tell_self hload.symm, hnone]
      · rw [events_after_poll h, poll_events, news_tell_self hload, ← news_congr hload, hnone]
    · have hg := hload.symm.trans hf
      refine .inr ⟨id, l, reason, hf, hg, hl, hp, ?_, ?_, ?_, ?_⟩
      · rw [poll_events, hnews, events_of_failed hf hl hp, List.append_nil]
      · rw [events_after_poll h, news_tell_self hload, events_of_failed hg hl hp, List.append_nil]
      · rw [poll_events, ← news_congr hload, hnews, events_of_failed hg hl hp, List.append_nil]
      · rw [events_after_poll h, news_tell_self hload.symm, events_of_failed hf hl hp,
          List.append_nil]
  · refine .inl ⟨?_, ?_⟩
    · rw [events_after_poll h, poll_events, news_tell_of_ne (Ne.symm hload)]
    · rw [events_after_poll h, poll_events, news_tell_of_ne hload]

end Future

theorem eraseIdx_comm {l : List α} {i j i' j' : Nat} (hj : placeWithout i j = some j')
    (hi : placeWithout j i = some i') :
    (l.eraseIdx i).eraseIdx j' = (l.eraseIdx j).eraseIdx i' := by
  apply List.ext_getElem?
  intro k
  unfold placeWithout at hi hj
  simp only [List.getElem?_eraseIdx]
  grind

namespace Scene
variable {s : Scene η σ τ φ α} {i j : Nat} {e d : String × Future η φ α}

theorem placeAfter_poll (hi : s.futures[i]? = some e) (place : Nat) :
    s.placeAfter (.poll i) place =
      if (e.2.poll s.world).value.isPending then some place else placeWithout i place := by
  simp [placeAfter, poll_of_future hi]

theorem exists_placeAfter_poll (hi : s.futures[i]? = some e) (hij : j ≠ i) :
    ∃ j', s.placeAfter (.poll i) j = some j' := by
  rw [placeAfter_poll hi]
  by_cases hp : (e.2.poll s.world).value.isPending = true
  · exact ⟨j, if_pos hp⟩
  · rw [if_neg hp, placeWithout_of_ne hij]
    exact ⟨_, rfl⟩

/-- What has come of two polls is waited for no longer, whichever was first. -/
theorem futures_commute {l : List α} {a b : Bool} {i' j' : Nat}
    (hj : (if a then some j else placeWithout i j) = some j')
    (hi : (if b then some i else placeWithout j i) = some i') :
    (if a then if b then l else l.eraseIdx j else (if b then l else l.eraseIdx j).eraseIdx i') =
      if b then if a then l else l.eraseIdx i else (if a then l else l.eraseIdx i).eraseIdx j' := by
  cases a <;> cases b
  · exact (eraseIdx_comm hj hi).symm
  · obtain rfl := Option.some.inj hi
    rfl
  · obtain rfl := Option.some.inj hj
    rfl
  · rfl

/-- Two that are waited for can be polled in either order. Each gets the same answer and asks for
the same, and what is left is the same: loaders, handles, the record of loads, what is still
waited for, and what the pages show. The reports of each poll are the same too, but for one
thing: when both wait for a load that has failed and nobody was told, the one that is polled
first warns of it, and the other reports nothing. -/
theorem polls_commute {page : σ → π} (h : StillPages η φ page) (hi : s.futures[i]? = some e)
    (hj : s.futures[j]? = some d) (hij : i ≠ j) :
    ∃ i' j', s.placeAfter (.poll i) j = some j' ∧ s.placeAfter (.poll j) i = some i' ∧
      let first := step (.poll i) s
      let second := step (.poll j') first.state
      let other := step (.poll j) s
      let last := step (.poll i') other.state
      first.state.futures[j']? = some d ∧ other.state.futures[i']? = some e ∧
      last.value = first.value ∧ last.calls = first.calls ∧
      second.value = other.value ∧ second.calls = other.calls ∧
      last.state = { second.state with world.hosts := last.state.world.hosts } ∧
      page last.state.world.hosts = page second.state.world.hosts ∧
      (last.events = first.events ∧ second.events = other.events ∨
        ∃ (id : LoadId) (l : Load τ) (reason : String),
          e.2.load? = some id ∧ d.2.load? = some id ∧ s.world.loads[id]? = some l ∧
          l.progress = .settled (.failed reason) ∧
          first.events = [.loadFailed l.url reason] ∧ second.events = [] ∧
          other.events = [.loadFailed l.url reason] ∧ last.events = []) := by
  obtain ⟨j', hj'⟩ := exists_placeAfter_poll hi (Ne.symm hij)
  obtain ⟨i', hi'⟩ := exists_placeAfter_poll hj hij
  refine ⟨i', j', hj', hi', ?_⟩
  have hsecond := futures_placeAfter hj' hj
  have hlast := futures_placeAfter hi' hi
  refine ⟨hsecond, hlast, ?_⟩
  obtain ⟨hvalue, hcalls, hloads, hpage⟩ := Future.poll_after_poll h d.2 e.2 s.world
  obtain ⟨hvalue', hcalls', hloads', hpage'⟩ := Future.poll_after_poll h e.2 d.2 s.world
  have hevents := Future.events_commute h e.2 d.2 s.world
  rw [placeAfter_poll hi] at hj'
  rw [placeAfter_poll hj] at hi'
  rw [step_poll_eq hsecond, step_poll_eq hlast]
  simp only [step_poll_eq hi, step_poll_eq hj, hvalue, hcalls, hvalue', hcalls', hpage, hpage']
  refine ⟨trivial, trivial, trivial, trivial, ?_, trivial, hevents⟩
  rw [futures_commute hj' hi']
  rw [hloads', Future.tell_comm e.2 d.2, ← hloads]

/-- Two wait for one load, which has failed. The one that is polled first warns of it. -/
theorem failure_warned_of_once :
    let failed : Load HostRef := ⟨some (.named "gate"), "url", ⟨"page"⟩, .settled (.failed "404")⟩
    let s : Scene HostRef Hosts HostRef Simulation.Factory Json.Value :=
      { world := { hosts := [], loads := [failed] }
        futures := [("first", .ready "url" (0 : Nat)), ("second", .ready "url" (0 : Nat))] }
    let first := step (.poll 0) s
    let other := step (.poll 1) s
    (first.events = [.loadFailed "url" "404"] ∧ (step (.poll 0) first.state).events = [] ∧
      other.events = [.loadFailed "url" "404"] ∧ (step (.poll 0) other.state).events = []) ∧
    (step (.poll 0) other.state).value = first.value ∧
    (step (.poll 0) first.state).value = other.value := by
  intro failed s first other
  have hi : s.futures[0]? = some ("first", .ready "url" (0 : Nat)) := rfl
  have hj : s.futures[1]? = some ("second", .ready "url" (0 : Nat)) := rfl
  obtain ⟨i', j', hj', hi', -, -, hvalue, -, hvalue', -, -, -, hevents⟩ :=
    polls_commute StillPages.simulated hi hj (by decide)
  obtain rfl : 0 = j' := Option.some.inj hj'
  obtain rfl : 0 = i' := Option.some.inj hi'
  have hfirst : first.events = [.loadFailed "url" "404"] := by decide +kernel
  rcases hevents with ⟨-, hsame⟩ | ⟨_, _, _, -, -, -, -, hwarned, hsecond, hother, hlast⟩
  · exact absurd hsame (by decide +kernel)
  · refine ⟨⟨hfirst, hsecond, ?_, hlast⟩, hvalue, hvalue'⟩
    rw [← hfirst, hwarned]
    exact hother

end Scene

end CreationLoader
