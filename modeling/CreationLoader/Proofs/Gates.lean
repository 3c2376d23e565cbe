import CreationLoader.Proofs.Record

/-!
# What gates, handles and pending creations do

One equation for each operation on gates and loads: its result, the world it leaves, the calls
it has made and the events it has reported. What is proved about whole runs uses these
equations and does not look into the operations again.
-/

namespace CreationLoader
variable {η σ κ ν τ φ α β ι : Type}

/-- What the first reports who learns the outcome of a load. -/
def Load.news (l : Load τ) : List Event :=
  match l.gate, l.progress with
  | some _, .settled (.failed reason) => [.loadFailed l.url reason]
  | _, _ => []

theorem Load.news_of_isOpen {loads : List (Load τ)} {id : LoadId}
    (h : (loads[id]?).bind Load.outcome? = none) : (loads[id]?).elim [] Load.news = [] := by
  cases hl : loads[id]? with
  | none => rfl
  | some l =>
    have hp : l.progress = .pending := by
      rw [hl, Option.bind_some, ← Load.isOpen_iff] at h
      simpa [Load.isOpen] using h
    simp [Load.news, hp]

theorem World.modify_eq_self {loads : List (Load τ)} {id : LoadId} {f : Load τ → Load τ}
    (h : ∀ l, loads[id]? = some l → f l = l) : loads.modify id f = loads := by
  apply List.ext_getElem?
  intro i
  rw [List.getElem?_modify]
  by_cases hi : id = i
  · subst hi
    cases hl : loads[id]? with
    | none => rfl
    | some l => simp [h l hl]
  · simp [hi]

namespace Gate

/-- The load that is put on record when a host has begun it for a gate. -/
def begun (gate : GateId) (url : String) (script : ScriptLoad τ) : Load τ :=
  ⟨some gate, url, script.source, script.outcome.elim .pending .settled⟩

@[simp] theorem begun_isFor (gate : GateId) (url : String) (script : ScriptLoad τ) :
    (begun gate url script).isFor gate url = true := by simp [begun, Load.isFor]

theorem begun_isFor_iff {gate gate' : GateId} {url url' : String} {script : ScriptLoad τ} :
    (begun gate url script).isFor gate' url' = true ↔ gate = gate' ∧ url = url' := by
  simp [begun, Load.isFor]

theorem begun_not_delivered (gate : GateId) (url : String) (script : ScriptLoad τ) (o : Outcome) :
    (begun gate url script).progress ≠ .delivered o := by
  cases h : script.outcome <;> simp [begun, h]

theorem await_apply (id : LoadId) (w : World σ τ) :
    (await id : Action (World σ τ) κ (Option Outcome)) w =
      { value := (w.loads[id]?).bind Load.outcome?
        state := { w with loads := w.loads.modify id Load.deliver }
        events := (w.loads[id]?).elim [] Load.news } := by
  cases hl : w.loads[id]? with
  | none =>
    have hw : w.loads.modify id Load.deliver = w.loads :=
      World.modify_eq_self (by simp [hl])
    simp [await, hl, hw]
  | some l =>
    cases hp : l.progress with
    | settled o =>
      cases hg : l.gate <;> cases o <;>
        simp [await, hl, hp, hg, Load.news, Load.outcome?, Progress.outcome?]
    | pending =>
      have hw : w.loads.modify id Load.deliver = w.loads :=
        World.modify_eq_self (by simp [hl, Load.deliver, hp])
      simp [await, hl, hp, hw, Load.news, Load.outcome?, Progress.outcome?]
    | delivered o =>
      have hw : w.loads.modify id Load.deliver = w.loads :=
        World.modify_eq_self (by simp [hl, Load.deliver, hp])
      simp [await, hl, hp, hw, Load.news, Load.outcome?, Progress.outcome?]

variable [Host η σ κ ν τ]

theorem start_apply (gate : GateId) (host : η) (url : String) (w : World σ τ) :
    start gate host url w =
      { value := w.loads.length
        state := { hosts := (Host.loadScript host url w.hosts).state
                   loads := w.loads ++ [begun gate url (Host.loadScript host url w.hosts).value] }
        calls := (Host.loadScript host url w.hosts).calls
        events := .loadStarted url :: (Host.loadScript host url w.hosts).events } := by
  simp [start, World.onHosts, World.beginLoad, begun]

theorem ready_of_isDue {gate : GateId} {url : String} {w : World σ τ} (host : η)
    (h : w.isDue gate url = true) :
    ready gate host url w =
      { start gate host url w with
        events := (w.current? gate url).elim [] (fun _ => [.loadRetried url]) ++
          (start gate host url w).events } := by
  cases hc : w.current? gate url with
  | none => simp [ready, hc]
  | some id =>
    obtain ⟨l, hl, -⟩ := World.current?_eq_some hc
    rw [World.isDue_of_current? hc hl, Progress.isToldFailure_iff] at h
    obtain ⟨reason, hp⟩ := h
    simp [ready, hc, World.progress?, hl, hp]

theorem ready_of_not_isDue {gate : GateId} {url : String} {w : World σ τ} (host : η)
    (h : w.isDue gate url = false) :
    ∃ id l, w.current? gate url = some id ∧ w.loads[id]? = some l ∧
      ready gate host url w =
        { value := id
          state := w
          events := if l.progress = .delivered .loaded then [] else [.loadJoined url] } := by
  cases hc : w.current? gate url with
  | none => simp [World.isDue, hc] at h
  | some id =>
    obtain ⟨l, hl, -⟩ := World.current?_eq_some hc
    rw [World.isDue_of_current? hc hl] at h
    refine ⟨id, l, rfl, hl, ?_⟩
    rcases hp : l.progress with _ | _ | (_ | _) <;>
      simp_all [ready, World.progress?, Progress.isToldFailure]

/-- Whoever has asked a gate holds what the gate then keeps for the URL. -/
theorem ready_current? (gate : GateId) (host : η) (url : String) (w : World σ τ) :
    (ready gate host url w).state.current? gate url = some (ready gate host url w).value := by
  cases h : w.isDue gate url with
  | true => simp [ready_of_isDue host h, start_apply, World.current?, World.lastFor_append]
  | false =>
    obtain ⟨id, l, hc, -, he⟩ := ready_of_not_isDue host h
    simpa only [he] using hc

theorem ready_on_record (gate : GateId) (host : η) (url : String) (w : World σ τ) :
    ∃ l, (ready gate host url w).state.loads[(ready gate host url w).value]? = some l ∧
      l.isFor gate url = true := by
  obtain ⟨l, hl, hfor, -⟩ := World.current?_eq_some (ready_current? gate host url w)
  exact ⟨l, hl, hfor⟩

end Gate

section
variable [Host η σ κ ν τ]

@[simp] theorem abort_value (host : η) (e : LoaderError) (s : σ) : (abort host e s).value = e := by
  cases h : e.diagnostic <;> simp [abort, h]

namespace Loader
variable {l : Loader η φ α} {id : String} {s : σ}

theorem construct_of_restricted
    (hp : l.config.allowedDomains.permits (Host.hostname l.host s).value = false) :
    l.construct id s =
      let asked := Host.hostname l.host s
      let aborted := abort l.host (.domainRestricted asked.value) asked.state
      { value := .error (.domainRestricted asked.value)
        state := aborted.state
        calls := asked.calls ++ aborted.calls
        events := asked.events ++ aborted.events } := by
  simp [construct, hp]

theorem construct_of_unknown
    (hp : l.config.allowedDomains.permits (Host.hostname l.host s).value = true)
    (he : l.registry.get? id = none) :
    l.construct id s =
      let asked := Host.hostname l.host s
      let aborted := abort l.host (.unknownCreation id) asked.state
      { value := .error (.unknownCreation id)
        state := aborted.state
        calls := asked.calls ++ aborted.calls
        events := asked.events ++ aborted.events } := by
  simp [construct, hp, he]

theorem construct_of_known {entry : Entry φ α}
    (hp : l.config.allowedDomains.permits (Host.hostname l.host s).value = true)
    (he : l.registry.get? id = some entry) :
    l.construct id s =
      let asked := Host.hostname l.host s
      { value := .ok ⟨id, entry, l.host, l.gate, l.config.polyfillUrl⟩
        state := asked.state
        calls := asked.calls
        events := asked.events ++ [.constructed id] } := by
  simp [construct, hp, he]

theorem construct_ok_eq {h : Handle η φ α} (hv : (l.construct id s).value = .ok h) :
    l.registry.get? id = some h.entry ∧
      h = ⟨id, h.entry, l.host, l.gate, l.config.polyfillUrl⟩ := by
  cases hp : l.config.allowedDomains.permits (Host.hostname l.host s).value with
  | false =>
    rw [construct_of_restricted hp] at hv
    exact nomatch hv
  | true =>
    cases he : l.registry.get? id with
    | none =>
      rw [construct_of_unknown hp he] at hv
      exact nomatch hv
    | some entry =>
      rw [construct_of_known hp he] at hv
      obtain rfl := Except.ok.inj hv
      exact ⟨rfl, rfl⟩

/-- A handle has its id, the entry that stands under it, and the gate of its loader. -/
theorem construct_ok {h : Handle η φ α} (hv : (l.construct id s).value = .ok h) :
    h.id = id ∧ l.registry.get? id = some h.entry ∧ h.gate = l.gate := by
  obtain ⟨he, hh⟩ := construct_ok_eq hv
  exact ⟨congrArg Handle.id hh, he, congrArg Handle.gate hh⟩

end Loader

namespace Handle
variable {h : Handle η φ α} {selector : String} {w : World σ τ}

/-- The creation that an init leaves to be bound, waiting for a load or for none. -/
def pending (h : Handle η φ α) (selector : String) (overrides : Option (Params α))
    (load : Option LoadId) : Pending η φ α :=
  ⟨h, selector, (h.mergeParams overrides).params, load⟩

/-- The events of the overrides that a call of init drops. -/
def ignored (h : Handle η φ α) (overrides : Option (Params α)) : List Event :=
  (h.mergeParams overrides).ignored.map .overrideIgnored

theorem init_of_no_match (overrides : Option (Params α))
    (hm : (Host.hasMatch h.host selector w.hosts).value = false) :
    h.init selector overrides w =
      let asked := Host.hasMatch h.host selector w.hosts
      let aborted := abort h.host (.targetNotFound selector) asked.state
      { value := .error (.targetNotFound selector)
        state := { w with hosts := aborted.state }
        calls := asked.calls ++ aborted.calls
        events := asked.events ++ aborted.events } := by
  simp [init, World.onHosts, hm]

theorem init_of_not_hasMatch (overrides : Option (Params α))
    (hm : (Host.hasMatch h.host selector w.hosts).value = false) :
    (h.init selector overrides w).value = .error (.targetNotFound selector) ∧
      (h.init selector overrides w).state.loads = w.loads := by
  simp [init, World.onHosts, hm]

theorem init_of_native (overrides : Option (Params α))
    (hm : (Host.hasMatch h.host selector w.hosts).value = true)
    (hs : (Host.supportsShadowDom h.host (Host.hasMatch h.host selector w.hosts).state).value =
      true) :
    h.init selector overrides w =
      let asked := Host.hasMatch h.host selector w.hosts
      let support := Host.supportsShadowDom h.host asked.state
      { value := .ok (h.pending selector overrides none)
        state := { w with hosts := support.state }
        calls := asked.calls ++ support.calls
        events := asked.events ++ (h.ignored overrides ++ support.events) } := by
  simp [init, World.onHosts, hm, hs, pending, ignored]

theorem init_of_polyfilled (overrides : Option (Params α))
    (hm : (Host.hasMatch h.host selector w.hosts).value = true)
    (hs : (Host.supportsShadowDom h.host (Host.hasMatch h.host selector w.hosts).state).value =
      false) :
    h.init selector overrides w =
      let asked := Host.hasMatch h.host selector w.hosts
      let support := Host.supportsShadowDom h.host asked.state
      let joined := Gate.ready h.gate h.host h.polyfillUrl { w with hosts := support.state }
      { value := .ok (h.pending selector overrides (some joined.value))
        state := joined.state
        calls := asked.calls ++ (support.calls ++ joined.calls)
        events := asked.events ++ (h.ignored overrides ++ (support.events ++ joined.events)) } := by
  simp [init, World.onHosts, hm, hs, pending, ignored]

/-- What an init can do: it finds nothing, or binds natively, or asks the gate for the load of
the handle's URL. -/
theorem init_cases (h : Handle η φ α) (selector : String) (overrides : Option (Params α))
    (w : World σ τ) :
    ((h.init selector overrides w).value = .error (.targetNotFound selector) ∧
      (h.init selector overrides w).state.loads = w.loads) ∨
    ((h.init selector overrides w).value = .ok (h.pending selector overrides none) ∧
      (h.init selector overrides w).state.loads = w.loads) ∨
    ∃ hosts, let joined := Gate.ready h.gate h.host h.polyfillUrl { w with hosts }
      (h.init selector overrides w).value = .ok (h.pending selector overrides (some joined.value)) ∧
      (h.init selector overrides w).state = joined.state := by
  cases hm : (Host.hasMatch h.host selector w.hosts).value with
  | false => exact .inl (init_of_not_hasMatch overrides hm)
  | true =>
    cases hs : (Host.supportsShadowDom h.host
        (Host.hasMatch h.host selector w.hosts).state).value with
    | true =>
      rw [init_of_native overrides hm hs]
      exact .inr (.inl ⟨rfl, rfl⟩)
    | false =>
      rw [init_of_polyfilled overrides hm hs]
      exact .inr (.inr ⟨_, rfl, rfl⟩)

/-- An init that succeeds has found a match. What it leaves waits for a load if and only if
shadow DOM is not supported, and the load is then on record for the handle's gate and URL. -/
theorem init_ok {overrides : Option (Params α)} {p : Pending η φ α}
    (hp : (h.init selector overrides w).value = .ok p) :
    (Host.hasMatch h.host selector w.hosts).value = true ∧
      p = h.pending selector overrides p.load ∧
      (Host.supportsShadowDom h.host (Host.hasMatch h.host selector w.hosts).state).value =
        p.load.isNone ∧
      ∀ id, p.load = some id → ∃ l, (h.init selector overrides w).state.loads[id]? = some l ∧
        l.isFor h.gate h.polyfillUrl = true := by
  cases hm : (Host.hasMatch h.host selector w.hosts).value with
  | false =>
    rw [(init_of_not_hasMatch overrides hm).1] at hp
    exact nomatch hp
  | true =>
    cases hs : (Host.supportsShadowDom h.host
        (Host.hasMatch h.host selector w.hosts).state).value with
    | true =>
      rw [init_of_native overrides hm hs] at hp
      obtain rfl := Except.ok.inj hp
      exact ⟨rfl, rfl, rfl, fun id hid => nomatch hid⟩
    | false =>
      rw [init_of_polyfilled overrides hm hs] at hp ⊢
      obtain rfl := Except.ok.inj hp
      refine ⟨rfl, rfl, rfl, fun id hid => ?_⟩
      obtain rfl := Option.some.inj hid
      exact Gate.ready_on_record h.gate h.host h.polyfillUrl _

end Handle

variable [Factory φ σ κ ν α β ι] {p : Pending η φ α} {w : World σ τ}

namespace Pending

theorem instantiate_of_no_nodes {hosts : σ}
    (hq : (Host.queryAll p.handle.host p.selector hosts).value = []) :
    (p.instantiate hosts).value =
      match (Factory.prepare p.handle.entry.factory p.params
        (Host.queryAll p.handle.host p.selector hosts).state).value with
      | .ok _ => .ok []
      | .error reason => .error (.instantiationFailed p.handle.id reason) := by
  cases hv : (Factory.prepare p.handle.entry.factory p.params
    (Host.queryAll p.handle.host p.selector hosts).state).value <;>
    simp [instantiate, hq, hv, createAll, creationFailure]

theorem poll_of_native (hp : p.load = none) :
    p.poll w =
      { value := some (p.instantiate w.hosts).value
        state := { w with hosts := (p.instantiate w.hosts).state }
        calls := (p.instantiate w.hosts).calls
        events := (p.instantiate w.hosts).events } := by
  simp [poll, hp, World.onHosts]

theorem poll_of_isOpen {id : LoadId} (hp : p.load = some id)
    (hl : (w.loads[id]?).bind Load.outcome? = none) :
    p.poll w = { value := none, state := w } := by
  have hd : w.loads.modify id Load.deliver = w.loads :=
    World.modify_eq_self fun l hw => Load.deliver_of_isOpen (by simpa [hw] using hl)
  simp [poll, hp, Gate.await_apply, hl, hd, Load.news_of_isOpen hl]

theorem poll_of_failed {id : LoadId} {reason : String} (hp : p.load = some id)
    (hl : (w.loads[id]?).bind Load.outcome? = some (.failed reason)) :
    p.poll w =
      { value := some (.error (.polyfillFailed p.handle.polyfillUrl reason))
        state := { w with loads := w.loads.modify id Load.deliver }
        events := (w.loads[id]?).elim [] Load.news } := by
  simp [poll, hp, Gate.await_apply, hl]

theorem poll_of_loaded {id : LoadId} (hp : p.load = some id)
    (hl : (w.loads[id]?).bind Load.outcome? = some .loaded) :
    p.poll w =
      { value := some (p.instantiate w.hosts).value
        state := { hosts := (p.instantiate w.hosts).state
                   loads := w.loads.modify id Load.deliver }
        calls := (p.instantiate w.hosts).calls
        events := (w.loads[id]?).elim [] Load.news ++ (p.instantiate w.hosts).events } := by
  simp [poll, hp, Gate.await_apply, hl, World.onHosts]

/-- A poll tells the outcome of its load, if it waits for one. Either that is all, or it goes on
to make instances. -/
theorem poll_cases (p : Pending η φ α) (w : World σ τ) :
    (p.poll w).state.loads = p.load.elim w.loads (fun id => w.loads.modify id Load.deliver) ∧
    (((p.poll w).state.hosts = w.hosts ∧ (p.poll w).calls = []) ∨
      ((p.poll w).value = some (p.instantiate w.hosts).value ∧
        (p.poll w).state.hosts = (p.instantiate w.hosts).state ∧
        (p.poll w).calls = (p.instantiate w.hosts).calls)) := by
  cases hp : p.load with
  | none =>
    rw [poll_of_native hp]
    exact ⟨rfl, .inr ⟨rfl, rfl, rfl⟩⟩
  | some id =>
    rcases ho : (w.loads[id]?).bind Load.outcome? with _ | _ | reason
    · have hd : w.loads.modify id Load.deliver = w.loads :=
        World.modify_eq_self fun l hw => Load.deliver_of_isOpen (by simpa [hw] using ho)
      rw [poll_of_isOpen hp ho]
      exact ⟨hd.symm, .inl ⟨rfl, rfl⟩⟩
    · rw [poll_of_loaded hp ho]
      exact ⟨rfl, .inr ⟨rfl, rfl, rfl⟩⟩
    · rw [poll_of_failed hp ho]
      exact ⟨rfl, .inl ⟨rfl, rfl⟩⟩

end Pending

namespace Future

/-- What comes of a future when it has nothing to wait for any more. -/
def come : Future η φ α → Action σ κ (Polled ι)
  | binding p => do
    match ← p.instantiate with
    | .error e => return .failed e
    | .ok made => return .instances made
  | ready _ _ => return .ready

theorem come_not_pending (f : Future η φ α) (s : σ) : (f.come s).value.isPending = false := by
  cases f with
  | ready url id => rfl
  | binding p => cases hv : (p.instantiate s).value <;> simp [come, hv, Polled.isPending]

variable {f : Future η φ α}

theorem poll_of_native (hf : f.load? = none) :
    f.poll w =
      { value := (f.come w.hosts).value
        state := { w with hosts := (f.come w.hosts).state }
        calls := (f.come w.hosts).calls
        events := (f.come w.hosts).events } := by
  cases f with
  | ready url id => exact nomatch hf
  | binding p =>
    cases hv : (p.instantiate w.hosts).value <;>
      simp [poll, come, Pending.poll_of_native (p := p) hf, hv]

theorem poll_of_isOpen {id : LoadId} (hf : f.load? = some id)
    (hl : (w.loads[id]?).bind Load.outcome? = none) :
    f.poll w = { value := .pending, state := w } := by
  have hd : w.loads.modify id Load.deliver = w.loads :=
    World.modify_eq_self fun l hw => Load.deliver_of_isOpen (by simpa [hw] using hl)
  cases f with
  | ready url load =>
    obtain rfl := Option.some.inj hf
    simp [poll, Gate.await_apply, hl, hd, Load.news_of_isOpen hl]
  | binding p => simp [poll, Pending.poll_of_isOpen (p := p) hf hl]

theorem poll_of_failed {id : LoadId} {reason : String} (hf : f.load? = some id)
    (hl : (w.loads[id]?).bind Load.outcome? = some (.failed reason)) :
    f.poll w =
      { value := .failed (.polyfillFailed f.url reason)
        state := { w with loads := w.loads.modify id Load.deliver }
        events := (w.loads[id]?).elim [] Load.news } := by
  cases f with
  | ready url load =>
    obtain rfl := Option.some.inj hf
    simp [poll, Future.url, Gate.await_apply, hl]
  | binding p => simp [poll, Future.url, Pending.poll_of_failed (p := p) hf hl]

theorem poll_of_loaded {id : LoadId} (hf : f.load? = some id)
    (hl : (w.loads[id]?).bind Load.outcome? = some .loaded) :
    f.poll w =
      { value := (f.come w.hosts).value
        state := { hosts := (f.come w.hosts).state
                   loads := w.loads.modify id Load.deliver }
        calls := (f.come w.hosts).calls
        events := (w.loads[id]?).elim [] Load.news ++ (f.come w.hosts).events } := by
  cases f with
  | ready url load =>
    obtain rfl := Option.some.inj hf
    simp [poll, come, Gate.await_apply, hl]
  | binding p =>
    cases hv : (p.instantiate w.hosts).value <;>
      simp [poll, come, Pending.poll_of_loaded (p := p) hf hl, hv]

/-- What a poll gives for the outcome of the load that is waited for. -/
def answer (f : Future η φ α) (hosts : σ) : Option Outcome → Polled ι
  | none => .pending
  | some (.failed reason) => .failed (.polyfillFailed f.url reason)
  | some .loaded => (f.come hosts).value

theorem answer_isPending (f : Future η φ α) (hosts : σ) (o : Option Outcome) :
    (f.answer hosts o).isPending = o.isNone := by
  rcases o with _ | _ | _
  · rfl
  · exact f.come_not_pending hosts
  · rfl

theorem poll_value {w : World σ τ} {id : LoadId} {l : Load τ} (hf : f.load? = some id)
    (hl : w.loads[id]? = some l) : (f.poll w).value = f.answer w.hosts l.outcome? := by
  have ho : (w.loads[id]?).bind Load.outcome? = l.outcome? := by rw [hl, Option.bind_some]
  rcases hl : l.outcome? with _ | _ | reason
  · rw [poll_of_isOpen hf (ho.trans hl), answer]
  · rw [poll_of_loaded hf (ho.trans hl), answer]
  · rw [poll_of_failed hf (ho.trans hl), answer]

/-- A poll tells one load's outcome, if something waits for one, and changes no other. -/
theorem poll_loads (f : Future η φ α) (w : World σ τ) :
    (f.poll w).state.loads =
      f.load?.elim w.loads fun id => w.loads.modify id Load.deliver := by
  cases hf : f.load? with
  | none => simp [poll_of_native hf]
  | some id =>
    rcases ho : (w.loads[id]?).bind Load.outcome? with _ | _ | reason
    · have hd : w.loads.modify id Load.deliver = w.loads :=
        World.modify_eq_self fun l hw => Load.deliver_of_isOpen (by simpa [hw] using ho)
      simp [poll_of_isOpen hf ho, hd]
    · simp [poll_of_loaded hf ho]
    · simp [poll_of_failed hf ho]

end Future

end

end CreationLoader
