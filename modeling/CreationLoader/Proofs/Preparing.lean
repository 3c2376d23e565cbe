import CreationLoader.Proofs.Following
import CreationLoader.Proofs.Polling
import CreationLoader.Proofs.Provenance
import CreationLoader.Simulation.Host

/-!
# What factories are handed

Defaults are shared by the registry, by handles and their clones, and by all that is being bound.
Nothing that happens to these changes them: whatever an init leaves to be bound hands the factory
the defaults that were first registered, with the overrides of that init, and does so once.
-/

namespace CreationLoader
open Simulation (HostRef Hosts)

variable {η σ κ ν τ φ α β ι ρ : Type}

/-- The parameters that factories were handed, in order. -/
def Effect.prepared (e : Effect σ (Request η φ ν α β) ρ) : List (φ × Params α) :=
  e.calls.filterMap Request.prepared?

variable [Host η σ κ ν τ] [Factory φ σ κ ν α β ι]

theorem Pending.instantiate_prepared (p : Pending (WatchedHost η φ) (WatchedFactory η φ) α)
    (s : σ) : (p.instantiate s).prepared = [(p.handle.entry.factory.factory, p.params)] := by
  obtain ⟨creates, hcalls, hcreates⟩ := p.instantiate_calls s
  have hnone : creates.filterMap Request.prepared? = [] := by
    rw [List.filterMap_eq_nil_iff]
    intro r hr
    obtain ⟨node, args, rfl⟩ := hcreates r hr
    rfl
  rw [Effect.prepared, hcalls, List.filterMap_cons, List.filterMap_cons, hnone]
  rfl

/-- A poll hands over the parameters of what it asks for, if it goes on to make instances. -/
theorem Future.poll_prepared (p : Pending (WatchedHost η φ) (WatchedFactory η φ) α)
    (w : World σ τ) :
    ((binding p).poll w).prepared =
      if ((binding p).poll w).value.isInstantiated then
        [(p.handle.entry.factory.factory, p.params)] else [] := by
  have hmade := come_isInstantiated p w.hosts
  have hcome : ((binding p).come w.hosts).prepared =
      [(p.handle.entry.factory.factory, p.params)] := by
    rw [Effect.prepared, come_calls]
    exact Pending.instantiate_prepared p w.hosts
  rw [poll_eq]
  rcases (binding p).outcome? w.loads with _ | _ | reason
  · rfl
  · change ((binding p).come w.hosts).prepared =
      if ((binding p).come w.hosts).value.isInstantiated then _ else []
    rw [if_pos hmade, hcome]
  · rfl

namespace Handle

theorem mergeParams_names (h : Handle η φ α) (overrides : Option (Params α)) :
    (h.mergeParams overrides).params.names = h.entry.defaults.names := by
  cases overrides with
  | none => rfl
  | some overrides => exact Params.merge_names _ _

theorem mergeParams_get? (h : Handle η φ α) (overrides : Option (Params α)) (param : String) :
    (h.mergeParams overrides).params.get? param =
      (h.entry.defaults.get? param).map fun value =>
        (overrides.bind fun o => o.get? param).getD value := by
  cases overrides with
  | none => cases hd : h.entry.defaults.get? param <;> simp [mergeParams, hd]
  | some overrides => exact Params.merge_get? _ _ _

end Handle

namespace Scene

def Step.polls : Step η σ φ α → Nat → Bool
  | .poll asked, place => asked == place
  | _, _ => false

theorem Step.polls_iff {x : Step η σ φ α} {place : Nat} :
    x.polls place = true ↔ x = .poll place := by
  cases x <;> simp [polls]

/-- What a run hands over by polls of the one future that stands at a place at first. -/
def preparedFor : List (WatchedStep η σ φ α) → WatchedScene η σ τ φ α → Nat →
    List (φ × Params α)
  | [], _, _ => []
  | x :: rest, s, place =>
    (if x.polls place then (step x s).prepared else []) ++
      (s.placeAfter x place).elim [] (preparedFor rest (step x s).state)

/-- One poll of what is being bound: if it goes on to make instances, it hands the parameters
over, and there will be no other poll. -/
theorem step_poll_prepared {s : WatchedScene η σ τ φ α} {place : Nat} {name : String}
    {p : Pending (WatchedHost η φ) (WatchedFactory η φ) α}
    (hf : s.futures[place]? = some (name, .binding p)) :
    ∃ polled, (step (.poll place) s).value = .polled polled ∧
      (step (.poll place) s).prepared =
        (if polled.isInstantiated then [(p.handle.entry.factory.factory, p.params)] else []) ∧
      (polled.isInstantiated = true → s.placeAfter (.poll place) place = none) := by
  refine ⟨((Future.binding p).poll s.world).value, ?_, ?_, ?_⟩
  · rw [step_poll_of_future hf]
  · rw [← Future.poll_prepared, step_poll_of_future hf]
    rfl
  · intro hmade
    have hpending := Polled.isPending_of_isInstantiated hmade
    simp [placeAfter, poll_of_future hf, hpending]

theorem preparedFor_binding {steps : List (WatchedStep η σ φ α)} {s : WatchedScene η σ τ φ α}
    {place : Nat} {name : String} {p : Pending (WatchedHost η φ) (WatchedFactory η φ) α}
    (hf : s.futures[place]? = some (name, .binding p)) :
    preparedFor steps s place = [] ∨
      preparedFor steps s place = [(p.handle.entry.factory.factory, p.params)] := by
  induction steps generalizing s place with
  | nil => exact .inl rfl
  | cons x rest ih =>
    have hrest : (s.placeAfter x place).elim [] (preparedFor rest (step x s).state) = [] ∨
        (s.placeAfter x place).elim [] (preparedFor rest (step x s).state) =
          [(p.handle.entry.factory.factory, p.params)] := by
      cases hk : s.placeAfter x place with
      | none => exact .inl rfl
      | some k => exact ih (futures_placeAfter hk hf)
    by_cases hx : x.polls place = true
    · obtain rfl := Step.polls_iff.mp hx
      obtain ⟨polled, -, hprepared, hgone⟩ := step_poll_prepared hf
      rw [preparedFor, if_pos hx, hprepared]
      split_ifs with hmade
      · rw [hgone hmade]
        exact .inr rfl
      · exact hrest
    · rw [preparedFor, if_neg hx]
      exact hrest

theorem init_done {handle selector name : String} {overrides : Option (Params α)}
    {s : Scene η σ τ φ α} {h : Handle η φ α}
    (hh : s.handles.lookup handle = some h)
    (hdone : (step (.init handle selector overrides name) s).value = .done) :
    ∃ load, (step (.init handle selector overrides name) s).state.futures =
      s.futures ++ [(name, .binding (h.pending selector overrides load))] := by
  rcases hp : (h.init selector overrides s.world).value with e | p
  · rw [step_init_of_error name hh hp] at hdone
    exact nomatch hdone
  · rw [step_init_of_ok name hh hp]
    obtain ⟨-, hpending, -, -⟩ := Handle.init_ok hp
    exact ⟨p.load, by rw [← hpending]⟩

/-- A handle that was constructed for an id, whether it is the original or a clone, and whatever
has happened since: what an init on it leaves to be bound is followed through all that comes
after. It hands parameters to a factory at most once, in the poll that goes on to make instances.
They are the defaults that were first registered for the id in the loader's registry, with the
overrides of this init laid over them. All that is read later from handles and loaders is still
what was registered. -/
theorem prepared_is_merge_of_first_registered {hosts : σ}
    {before between : List (WatchedStep η σ φ α)}
    {loader id name handle selector future : String} {overrides : Option (Params α)}
    {l : Loader (WatchedHost η φ) (WatchedFactory η φ) α}
    {h : Handle (WatchedHost η φ) (WatchedFactory η φ) α}
    {registrations : List (String × Entry (WatchedFactory η φ) α)}
    (hl : ((initial hosts : WatchedScene η σ τ φ α).after before).loaders.lookup loader = some l)
    (hregistry : l.registry = .ofRegistrations registrations)
    (hconstruct : (step (.construct loader id name)
      ((initial hosts : WatchedScene η σ τ φ α).after before)).value = .handle h)
    (hh : ((initial hosts : WatchedScene η σ τ φ α).after
      (before ++ .construct loader id name :: between)).handles.lookup handle = some h)
    (hinit : (step (.init handle selector overrides future)
      ((initial hosts : WatchedScene η σ τ φ α).after
        (before ++ .construct loader id name :: between))).value = .done) :
    let start : WatchedScene η σ τ φ α := initial hosts
    let steps := before ++ .construct loader id name :: between
    let s := start.after steps
    let init := .init handle selector overrides future
    let begun := (step init s).state
    ∃ entry merged, registrations.lookup id = some entry ∧
      merged = overrides.elim entry.defaults (fun o => (entry.defaults.merge o).params) ∧
      merged.names = entry.defaults.names ∧
      (∀ param, merged.get? param = (entry.defaults.get? param).map fun value =>
        (overrides.bind fun o => o.get? param).getD value) ∧
      ∀ more : List (WatchedStep η σ φ α),
        (preparedFor more begun s.futures.length = [] ∨
          preparedFor more begun s.futures.length = [(entry.factory.factory, merged)]) ∧
        (∀ k, placeAfterRun more begun s.futures.length = some k →
          ∃ polled, (step (.poll k) (begun.after more)).value = .polled polled ∧
            (step (.poll k) (begun.after more)).prepared =
              (if polled.isInstantiated then [(entry.factory.factory, merged)] else []) ∧
            (polled.isInstantiated = true →
              (begun.after more).placeAfter (.poll k) k = none)) ∧
        (∀ other h', (begun.after more).handles.lookup other = some h' →
          start.Constructed (steps ++ init :: more) h') ∧
        (∀ other l', (begun.after more).loaders.lookup other = some l' →
          Made (steps ++ init :: more) other l') := by
  intro start steps s init begun
  obtain ⟨l', hl', hid, hentry⟩ := construct_handle hconstruct
  obtain rfl : l = l' := Option.some.inj (hl.symm.trans hl')
  have hfirst : registrations.lookup id = some h.entry := by
    rw [← Registry.get?_ofRegistrations, ← hregistry, hentry]
  obtain ⟨load, hfutures⟩ := init_done hh hinit
  have hplace : begun.futures[s.futures.length]? =
      some (future, .binding (h.pending selector overrides load)) := by
    rw [hfutures, List.getElem?_concat_length]
  have hafter (more : List (WatchedStep η σ φ α)) :
      begun.after more = start.after (steps ++ init :: more) := by
    rw [after_append, after_cons]
  refine ⟨h.entry, (h.mergeParams overrides).params, hfirst, ?_, h.mergeParams_names overrides,
    h.mergeParams_get? overrides, fun more => ⟨preparedFor_binding hplace, ?_, ?_, ?_⟩⟩
  · cases overrides <;> rfl
  · intro k hk
    exact step_poll_prepared (futures_placeAfterRun hk hplace)
  · intro other h' hfind
    rw [hafter] at hfind
    exact constructed_of_mem _ _ (Association.mem_of_lookup hfind)
  · intro other l' hfind
    rw [hafter] at hfind
    exact made_of_mem _ _ (Association.mem_of_lookup hfind)

/-- A creation is registered twice, and the second registration is refused. A handle is cloned,
its loader is dropped, and the clone is bound by the polyfill: the first defaults are handed over,
with the override that names one of them. -/
theorem clone_of_dropped_loader_prepared :
    let factory : WatchedFactory HostRef Simulation.Factory := ⟨.closure "made" []⟩
    let defaults : Params Json.Value := ⟨[("size", .null), ("shown", .bool true)], by decide⟩
    let registrations := [("id", ⟨factory, defaults⟩), ("id", ⟨factory, ∅⟩)]
    let page : Simulation.Page := { shadowDom := false, nodes := [("div", [1])] }
    let before : List (WatchedStep HostRef Hosts Simulation.Factory Json.Value) :=
      [.hosts fun _ => [("page", page)],
        .loader "loader" (.ofRegistrations registrations) {} ⟨⟨"page"⟩⟩ none]
    let between := [.clone "handle" "clone", .dropLoader "loader"]
    let overrides : Params Json.Value := ⟨[("other", .null), ("shown", .bool false)], by decide⟩
    let start : WatchedScene HostRef Hosts HostRef Simulation.Factory Json.Value := initial []
    let s := start.after (before ++ .construct "loader" "id" "handle" :: between)
    let now := (step (.init "clone" "div" (some overrides) "future") s).state.after
      [.settle 0 .loaded]
    ∃ merged : Params Json.Value, (step (.poll 0) now).prepared = [(factory.factory, merged)] ∧
      merged.names = ["size", "shown"] ∧ merged.get? "shown" = some (.bool false) := by
  intro factory defaults registrations page before between overrides start s now
  have hl : (start.after before).loaders.lookup "loader" =
      some ⟨.ofRegistrations registrations, {}, ⟨⟨"page"⟩⟩, .own 0⟩ := rfl
  have hc : (step (.construct "loader" "id" "handle") (start.after before)).value =
      .handle ⟨"id", ⟨factory, defaults⟩, ⟨⟨"page"⟩⟩, .own 0, defaultPolyfillUrl⟩ := rfl
  have hh : s.handles.lookup "clone" =
      some ⟨"id", ⟨factory, defaults⟩, ⟨⟨"page"⟩⟩, .own 0, defaultPolyfillUrl⟩ := rfl
  have hinit : (step (.init "clone" "div" (some overrides) "future") s).value = .done := rfl
  obtain ⟨entry, merged, hfirst, -, hnames, hget, hmore⟩ :=
    prepared_is_merge_of_first_registered hl rfl hc hh hinit
  obtain rfl : ⟨factory, defaults⟩ = entry := Option.some.inj hfirst
  obtain ⟨-, hpoll, -, -⟩ := hmore [.settle 0 .loaded]
  obtain ⟨polled, hvalue, hprepared, -⟩ := hpoll 0 rfl
  have hsome : (step (.poll 0) now).prepared.isEmpty = false := by decide +kernel
  replace hprepared : (step (.poll 0) now).prepared = _ := hprepared
  have hmade : polled.isInstantiated = true := by
    by_contra hnot
    rw [hprepared, if_neg hnot] at hsome
    exact nomatch hsome
  rw [if_pos hmade] at hprepared
  exact ⟨merged, hprepared, hnames, hget "shown"⟩

end Scene
end CreationLoader
