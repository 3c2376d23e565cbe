import CreationLoader.Proofs.Beginning
import CreationLoader.Proofs.Polling

/-!
# What is reported of loads

A step begins a load, or tells that one has failed, or reports nothing of loads. What has become of
the loads that a gate has begun for a URL can be read off the record: each that is not the last has
failed, and this has been told.
-/

namespace CreationLoader
variable {η σ κ ν τ φ α β ι ρ : Type}

/-- The URL of a load that has begun, is to be tried again or has failed, where this is reported. -/
def Event.loadUrl? : Event → Option String
  | loadStarted url | loadRetried url | loadFailed url _ => some url
  | _ => none

theorem Event.isSome_loadUrl? (e : Event) :
    e.loadUrl?.isSome = (e.message == "loading shadow DOM polyfill" ||
      e.message == "previous polyfill load failed, retrying" ||
      e.message == "polyfill failed to load") := by
  cases e <;> rfl

def Request.script? : Request η φ ν α β → Option String
  | loadScript _ url => some url
  | _ => none

namespace Effect

def loadEvents (e : Effect σ κ ρ) : List Event := e.events.filter fun event => event.loadUrl?.isSome

/-- The URLs of the scripts that hosts were asked to load. -/
def scripts (e : Effect σ (Request η φ ν α β) ρ) : List String := e.calls.filterMap Request.script?

end Effect

namespace Load
variable {gate : GateId} {url reason : String} {l : Load τ} {loads : List (Load τ)}

/-- The reason of a failure that somebody was told. -/
def told? (l : Load τ) : Option String :=
  match l.progress with
  | .delivered (.failed reason) => some reason
  | _ => none

theorem isSome_told? (l : Load τ) : l.told?.isSome = l.progress.isToldFailure := by
  rcases h : l.progress with _ | _ | (_ | _) <;> simp [told?, Progress.isToldFailure, h]

theorem told?_of_settled {o : Outcome} (h : l.progress = .settled o) : l.told? = none := by
  simp [told?, h]

theorem told?_deliver_of_failed (h : l.progress = .settled (.failed reason)) :
    l.deliver.told? = some reason := by
  simp [told?, deliver, h]

@[simp] theorem told?_settle (o : Outcome) (l : Load τ) : (l.settle o).told? = l.told? := by
  cases h : l.progress <;> simp [settle, isOpen, told?, h]

theorem exists_gate_of_news (h : l.news ≠ []) : ∃ gate, l.gate = some gate := by
  cases hgate : l.gate with
  | none => exact absurd (by simp [news, hgate]) h
  | some gate => exact ⟨gate, rfl⟩

theorem told?_deliver_of_news (hfor : l.isFor gate url = true) (h : l.news = []) :
    l.deliver.told? = l.told? := by
  have hgate := (isFor_iff.mp hfor).1
  rcases hp : l.progress with _ | (_ | reason) | _
  · simp [deliver, told?, hp]
  · simp [deliver, told?, hp]
  · simp [news, hgate, hp] at h
  · simp [deliver, told?, hp]

/-- What has become of the loads that a gate has begun for a URL, oldest first: of each the reason
of its failure, if that has been told. -/
def history (gate : GateId) (url : String) (loads : List (Load τ)) : List (Option String) :=
  (loads.filter (isFor gate url)).map told?

theorem history_append (xs ys : List (Load τ)) :
    history gate url (xs ++ ys) = history gate url xs ++ history gate url ys := by
  simp [history]

theorem history_eq_nil_iff :
    history gate url loads = [] ↔ ∀ l ∈ loads, l.isFor gate url = false := by
  simp [history]

theorem history_singleton (hfor : l.isFor gate url = true) : history gate url [l] = [l.told?] := by
  simp [history, hfor]

theorem history_singleton_of_ne (hfor : l.isFor gate url = false) : history gate url [l] = [] := by
  simp [history, hfor]

theorem history_cons (l : Load τ) (rest : List (Load τ)) :
    history gate url (l :: rest) = history gate url [l] ++ history gate url rest :=
  history_append [l] rest

/-- A change of one load does not show if the load is for something else, or if it tells nothing. -/
theorem history_modify {id : LoadId} {f : Load τ → Load τ}
    (h : ∀ l, loads[id]? = some l → (f l).isFor gate url = l.isFor gate url ∧
      (l.isFor gate url = true → (f l).told? = l.told?)) :
    history gate url (loads.modify id f) = history gate url loads := by
  induction loads generalizing id with
  | nil => simp
  | cons l rest ih =>
    cases id with
    | zero =>
      obtain ⟨hfor, htold⟩ := h l rfl
      have hsame : history gate url [f l] = history gate url [l] := by
        cases hl : l.isFor gate url with
        | false => rw [history_singleton_of_ne hl, history_singleton_of_ne (hfor.trans hl)]
        | true => rw [history_singleton hl, history_singleton (hfor.trans hl), htold hl]
      rw [List.modify_zero_cons, history_cons, hsame, ← history_cons]
    | succ id =>
      rw [List.modify_succ_cons, history_cons, ih fun m hm => h m hm, ← history_cons]

theorem history_settle (id : LoadId) (o : Outcome) (loads : List (Load τ)) :
    history gate url (loads.modify id (settle o)) = history gate url loads :=
  history_modify fun l _ => ⟨isFor_settle gate url o l, fun _ => told?_settle o l⟩

theorem history_deliver_of_news {id : LoadId} (h : (loads[id]?).elim [] news = []) :
    history gate url (loads.modify id deliver) = history gate url loads := by
  refine history_modify fun l hl => ⟨isFor_deliver gate url l, fun hfor => ?_⟩
  rw [hl] at h
  exact told?_deliver_of_news hfor h

theorem history_deliver_of_ne {id : LoadId} (hl : loads[id]? = some l)
    (hfor : l.isFor gate url = false) :
    history gate url (loads.modify id deliver) = history gate url loads := by
  refine history_modify fun m hm => ⟨isFor_deliver gate url m, fun hmfor => ?_⟩
  obtain rfl := Option.some.inj (hl.symm.trans hm)
  exact absurd hmfor (by simp [hfor])

/-- The failure of the last load of a gate for a URL shows at the end, when it is told. -/
theorem history_deliver_of_last {id : LoadId} (hl : loads[id]? = some l)
    (hfor : l.isFor gate url = true) (hp : l.progress = .settled (.failed reason))
    (hlast : ∀ (j : Nat) (m : Load τ), loads[j]? = some m → m.isFor gate url = true → j ≤ id) :
    ∃ before, history gate url loads = before ++ [none] ∧
      history gate url (loads.modify id deliver) = before ++ [some reason] := by
  obtain ⟨hid, rfl⟩ := List.getElem?_eq_some_iff.mp hl
  have hnone : history gate url (loads.drop (id + 1)) = [] := by
    refine history_eq_nil_iff.mpr fun m hm => ?_
    obtain ⟨j, hj⟩ := List.mem_iff_getElem?.mp hm
    rw [List.getElem?_drop] at hj
    by_contra hmfor
    have hle := hlast _ m hj (by simpa using hmfor)
    omega
  have hsplit : loads = loads.take id ++ ([loads[id]] ++ loads.drop (id + 1)) := by simp
  have hdelivered : loads.modify id deliver =
      loads.take id ++ ([loads[id].deliver] ++ loads.drop (id + 1)) := by
    rw [List.modify_eq_take_cons_drop hid, List.singleton_append]
  refine ⟨history gate url (loads.take id), (congrArg _ hsplit).trans ?_, ?_⟩
  · rw [history_append, history_append, hnone, history_singleton hfor, told?_of_settled hp,
      List.append_nil]
  · rw [hdelivered, history_append, history_append, hnone,
      history_singleton ((isFor_deliver gate url _).trans hfor), told?_deliver_of_failed hp,
      List.append_nil]

end Load

theorem Gate.history_begun (gate gate' : GateId) (url url' : String) (loads : List (Load τ))
    (script : ScriptLoad τ) :
    Load.history gate url (loads ++ [begun gate' url' script]) =
      Load.history gate url loads ++ if (gate', url') = (gate, url) then [none] else [] := by
  have htold : (begun gate' url' script).told? = none := by
    cases h : script.outcome <;> simp [begun, Load.told?, h]
  rw [Load.history_append]
  by_cases h : (gate', url') = (gate, url)
  · obtain ⟨rfl, rfl⟩ := Prod.mk.inj h
    rw [Load.history_singleton (begun_isFor gate' url' script), htold, if_pos rfl]
  · have hfor : (begun gate' url' script).isFor gate url = false := by
      rw [Bool.eq_false_iff]
      exact fun hfor => h (Prod.ext_iff.mpr (begun_isFor_iff.mp hfor))
    rw [Load.history_singleton_of_ne hfor, if_neg h]

variable [Host η σ κ ν τ] [Factory φ σ κ ν α β ι]

theorem covers_no_loads :
    Covers (WatchedHost η φ) (WatchedFactory η φ) fun (x : Action σ (Request η φ ν α β) _) =>
      ∀ s, (x s).loadEvents = [] ∧ (x s).scripts = [] where
  pure _ _ := ⟨rfl, rfl⟩
  bind {_ _ x f} hx hf s := by
    obtain ⟨hevents, hscripts⟩ := hx s
    obtain ⟨hevents', hscripts'⟩ := hf (x s).value (x s).state
    simp only [Effect.loadEvents, Effect.scripts] at *
    simp only [Action.bind_apply, List.filter_append, List.filterMap_append, hevents, hscripts,
      hevents', hscripts', List.append_nil, and_self]
  queryAll _ _ _ := ⟨rfl, rfl⟩
  instantiating _ _ _ _ := ⟨rfl, rfl⟩
  prepare _ _ _ := ⟨rfl, rfl⟩
  create _ _ _ _ := ⟨rfl, rfl⟩
  creationFailed _ _ _ := ⟨rfl, rfl⟩

namespace Scene

/-- What a step reports of loads and asks for, and what it does to their record: nothing, or it
begins one, or a poll is the first to tell that one has failed. -/
inductive LoadReport (s : WatchedScene η σ τ φ α) (x : WatchedStep η σ φ α)
    (e : Effect (WatchedScene η σ τ φ α) (Request η φ ν α β) ρ) : Prop
  | quiet : e.loadEvents = [] → e.scripts = [] →
      (∀ gate url, Load.history gate url e.state.world.loads =
        Load.history gate url s.world.loads) → LoadReport s x e
  | begun {gate : GateId} {url : String} {script : ScriptLoad τ} : s.asks x = some (gate, url) →
      s.world.isDue gate url = true →
      e.state.world.loads = s.world.loads ++ [Gate.begun gate url script] →
      e.loadEvents = (s.world.current? gate url).elim [] (fun _ => [.loadRetried url]) ++
        [.loadStarted url] →
      e.scripts = [url] → LoadReport s x e
  | told {place : Nat} {name : String} {f : Future (WatchedHost η φ) (WatchedFactory η φ) α}
      {id : LoadId} {l : Load τ} {gate : GateId} {reason : String} : x = .poll place →
      s.futures[place]? = some (name, f) → f.load? = some id → s.world.loads[id]? = some l →
      l.gate = some gate → l.progress = .settled (.failed reason) →
      e.state.world.loads = s.world.loads.modify id Load.deliver →
      e.events = [.loadFailed l.url reason] → e.calls = [] → LoadReport s x e

section
variable {s : WatchedScene η σ τ φ α} {x : WatchedStep η σ φ α}
  {e : Effect (WatchedScene η σ τ φ α) (Request η φ ν α β) ρ}

theorem LoadReport.ready {gate : GateId} {url : String} (hx : s.asks x = some (gate, url))
    (host : WatchedHost η φ) (hosts : σ) (others : List Event) (requests : List (Request η φ ν α β))
    (hothers : others.filter (fun event => event.loadUrl?.isSome) = [])
    (hrequests : requests.filterMap Request.script? = [])
    (hworld : e.state.world = (Gate.ready gate host url ⟨hosts, s.world.loads⟩).state)
    (hevents : e.events = others ++ (Gate.ready gate host url ⟨hosts, s.world.loads⟩).events)
    (hcalls : e.calls = requests ++ (Gate.ready gate host url ⟨hosts, s.world.loads⟩).calls) :
    s.LoadReport x e := by
  cases hdue : s.world.isDue gate url with
  | false =>
    obtain ⟨id, l, -, -, hready⟩ :=
      Gate.ready_of_not_isDue (w := ⟨hosts, s.world.loads⟩) host hdue
    rw [hready] at hworld hevents hcalls
    refine .quiet ?_ ?_ fun gate url => by rw [hworld]
    · rw [Effect.loadEvents, hevents, List.filter_append, hothers]
      split <;> rfl
    · rw [Effect.scripts, hcalls, List.filterMap_append, hrequests]
      rfl
  | true =>
    have hready := Gate.ready_of_isDue (w := ⟨hosts, s.world.loads⟩) host hdue
    rw [hready, Gate.start_apply] at hworld hevents hcalls
    refine .begun hx hdue (by rw [hworld]) ?_ ?_
    · rw [Effect.loadEvents, hevents, List.filter_append, hothers, List.nil_append]
      have hcurrent : World.current? ⟨hosts, s.world.loads⟩ gate url = s.world.current? gate url :=
        rfl
      rw [hcurrent]
      cases s.world.current? gate url <;> rfl
    · rw [Effect.scripts, hcalls, List.filterMap_append, hrequests]
      rfl

end

theorem ignored_loadUrl? (h : Handle η φ α) (overrides : Option (Params α)) :
    (h.ignored overrides).filter (fun event => event.loadUrl?.isSome) = [] := by
  simp [Handle.ignored, Event.loadUrl?]

theorem construct_no_loads (l : Loader (WatchedHost η φ) (WatchedFactory η φ) α) (id : String)
    (hosts : σ) : (l.construct id hosts).loadEvents = [] ∧ (l.construct id hosts).scripts = [] := by
  cases hp : l.config.allowedDomains.permits (Host.hostname l.host hosts).value with
  | false =>
    rw [Loader.construct_of_restricted hp]
    exact ⟨rfl, rfl⟩
  | true =>
    cases he : l.registry.get? id with
    | none =>
      rw [Loader.construct_of_unknown hp he]
      exact ⟨rfl, rfl⟩
    | some entry =>
      rw [Loader.construct_of_known hp he]
      exact ⟨rfl, rfl⟩

theorem construct_report (loader id name : String) (s : WatchedScene η σ τ φ α) :
    s.LoadReport (.construct loader id name) (step (.construct loader id name) s) := by
  cases hl : s.loaders.lookup loader with
  | none =>
    rw [step_construct_of_absent id name hl]
    exact .quiet rfl rfl fun _ _ => rfl
  | some l =>
    obtain ⟨hevents, hscripts⟩ := construct_no_loads l id s.world.hosts
    cases hv : (l.construct id s.world.hosts).value with
    | error e =>
      rw [step_construct_of_error name hl hv]
      exact .quiet hevents hscripts fun _ _ => rfl
    | ok h =>
      rw [step_construct_of_ok name hl hv]
      exact .quiet hevents hscripts fun _ _ => rfl

theorem init_report (handle selector : String) (overrides : Option (Params α)) (name : String)
    (s : WatchedScene η σ τ φ α) :
    s.LoadReport (.init handle selector overrides name)
      (step (.init handle selector overrides name) s) := by
  cases hh : s.handles.lookup handle with
  | none =>
    rw [step_init_of_absent selector overrides name hh]
    exact .quiet rfl rfl fun _ _ => rfl
  | some h =>
    cases hm : (Host.hasMatch h.host.host selector s.world.hosts).value with
    | false =>
      rw [step_init_of_no_match overrides name hh hm]
      exact .quiet rfl rfl fun _ _ => rfl
    | true =>
      cases hs : (Host.supportsShadowDom h.host.host
          (Host.hasMatch h.host.host selector s.world.hosts).state).value with
      | true =>
        rw [step_init_of_native overrides name hh hm hs]
        exact .quiet (ignored_loadUrl? h overrides) rfl fun _ _ => rfl
      | false =>
        have hasks : s.asks (.init handle selector overrides name) =
            some (h.gate, h.polyfillUrl) := by
          simp [asks, hh]
        rw [step_init_of_polyfilled overrides name hh hm hs]
        exact .ready hasks h.host _ (h.ignored overrides)
          [.hasMatch h.host.host selector, .supportsShadowDom h.host.host]
          (ignored_loadUrl? h overrides) rfl rfl rfl rfl

theorem poll_report (place : Nat) (s : WatchedScene η σ τ φ α) :
    s.LoadReport (.poll place) (step (.poll place) s) := by
  rcases hf : s.futures[place]? with _ | ⟨name, f⟩
  · have habsent : step (.poll place) s = { value := .absent, state := s } := by
      simp [step, poll_of_absent hf]
    rw [habsent]
    exact .quiet rfl rfl fun _ _ => rfl
  · obtain ⟨hevents, hscripts⟩ :=
      Future.proceed_of_covers covers_no_loads f (f.outcome? s.world.loads) s.world.hosts
    have hloads := f.poll_loads s.world
    rw [step_poll_eq hf]
    rcases f.news_cases s.world.loads with hnews | ⟨id, l, reason, hid, hl, hp, hnews⟩
    · refine .quiet ?_ ?_ fun gate url => ?_
      · rw [Effect.loadEvents, f.poll_events, hnews]
        exact hevents
      · rw [Effect.scripts, f.poll_calls]
        exact hscripts
      · simp only [hloads]
        cases hid : f.load? with
        | none => rfl
        | some id =>
          refine Load.history_deliver_of_news ?_
          simpa [Future.news, hid] using hnews
    · have hfailed := Future.poll_of_failed hid (by rw [hl]; exact Load.outcome?_of_settled hp)
      have hwarned : l.news = [.loadFailed l.url reason] := by
        simpa [Future.news, hid, hl] using hnews
      obtain ⟨gate, hgate⟩ := Load.exists_gate_of_news (l := l) (by simp [hwarned])
      refine .told rfl hf hid hl hgate hp ?_ ?_ ?_
      · simp only [hloads, hid, Option.elim_some]
      · rw [hfailed, hl]
        exact hwarned
      · rw [hfailed]

theorem step_report (x : WatchedStep η σ φ α) (s : WatchedScene η σ τ φ α) :
    s.LoadReport x (step x s) := by
  cases x with
  | init handle selector overrides name => exact init_report handle selector overrides name s
  | poll place => exact poll_report place s
  | ready gate host url name =>
    have hasks : s.asks (.ready gate host url name) = some (gate, url) := rfl
    refine .ready hasks host s.world.hosts [] [] rfl rfl ?_ ?_ ?_
    · rw [step_ready_state, ready_state]
    · simp [step, Scene.ready, onWorld, wait]
    · simp [step, Scene.ready, onWorld, wait]
  | settle id outcome =>
    exact .quiet rfl rfl fun gate url => Load.history_settle id outcome s.world.loads
  | construct loader id name => exact construct_report loader id name s
  | clone handle name =>
    cases hh : s.handles.lookup handle <;>
      exact .quiet (by simp [step, clone, setHandle, hh, Effect.loadEvents])
        (by simp [step, clone, setHandle, hh, Effect.scripts])
        fun _ _ => by simp [step, clone, setHandle, hh]
  | hosts change => exact .quiet rfl rfl fun _ _ => rfl
  | loader name registry config host gate => exact .quiet rfl rfl fun _ _ => rfl
  | dropLoader name => exact .quiet rfl rfl fun _ _ => rfl
  | isLoaded gate url => exact .quiet rfl rfl fun _ _ => rfl
  | drop place => exact .quiet rfl rfl fun _ _ => rfl

end Scene

end CreationLoader
