import CreationLoader.Proofs.Gates

/-!
# Steps and runs of scenes

What one step does to the record of loads and to what is being waited for, and what follows for
runs: the record grows, and what waits for a load waits for one that is on record for its URL.
-/

namespace CreationLoader
variable {η σ κ ν τ φ α β ι : Type}

/-- What waits for a load waits for one that is on record for the URL. -/
def Future.Bound (w : World σ τ) (f : Future η φ α) : Prop :=
  ∀ id, f.load? = some id → ∃ l, w.loads[id]? = some l ∧ l.url = f.url

theorem Future.Bound.grows {w v : World σ τ} {f : Future η φ α} (h : f.Bound w)
    (k : w.Grows v) : f.Bound v := by
  intro id hid
  obtain ⟨l, hl, hu⟩ := h id hid
  obtain ⟨m, hm, hlm⟩ := k id l hl
  exact ⟨m, hm, hlm.url.trans hu⟩

namespace Scene

section
variable [Host η σ κ ν τ]

/-- What a step can do to the record of loads. -/
inductive Change (s : Scene η σ τ φ α) : Step η σ φ α → List (Load τ) → Prop
  | kept (x : Step η σ φ α) : Change s x s.world.loads
  | begun (x : Step η σ φ α) {gate : GateId} {url : String} {host : η} {hosts : σ} :
      s.world.isDue gate url = true →
      Change s x (s.world.loads ++ [Gate.begun gate url (Host.loadScript host url hosts).value])
  | settled (id : LoadId) (outcome : Outcome) :
      Change s (.settle id outcome) (s.world.loads.modify id (Load.settle outcome))
  | told {place : Nat} {name : String} {f : Future η φ α} {id : LoadId} :
      s.futures[place]? = some (name, f) → f.load? = some id →
      Change s (.poll place) (s.world.loads.modify id Load.deliver)

theorem Change.ready {s : Scene η σ τ φ α} (x : Step η σ φ α) (gate : GateId) (host : η)
    (url : String) {w : World σ τ} (hw : w.loads = s.world.loads) :
    s.Change x (Gate.ready gate host url w).state.loads := by
  have hdue : w.isDue gate url = s.world.isDue gate url := World.isDue_congr hw gate url
  cases h : w.isDue gate url with
  | true =>
    simp only [Gate.ready_of_isDue host h, Gate.start_apply, hw]
    exact .begun x (hdue ▸ h)
  | false =>
    obtain ⟨id, l, -, -, he⟩ := Gate.ready_of_not_isDue host h
    simp only [he, hw]
    exact .kept x

theorem ready_state (gate : GateId) (host : η) (url name : String) (s : Scene η σ τ φ α) :
    (ready gate host url name s).state =
      { s with
        world := (Gate.ready gate host url s.world).state
        futures := s.futures ++
          [(name, .ready url (Gate.ready gate host url s.world).value)] } := by
  simp [ready, onWorld, wait]

theorem init_state_of_absent {handle : String} {s : Scene η σ τ φ α} (selector : String)
    (overrides : Option (Params α)) (name : String)
    (h : s.handles.lookup handle = none) :
    (init handle selector overrides name s).state = s := by
  simp [init, h]

theorem init_state_of_error {handle selector : String} {overrides : Option (Params α)}
    {s : Scene η σ τ φ α} {h : Handle η φ α} {e : LoaderError} (name : String)
    (hh : s.handles.lookup handle = some h)
    (he : (h.init selector overrides s.world).value = .error e) :
    (init handle selector overrides name s).state =
      { s with world := (h.init selector overrides s.world).state } := by
  simp [init, onWorld, hh, he]

theorem init_state_of_ok {handle selector : String} {overrides : Option (Params α)}
    {s : Scene η σ τ φ α} {h : Handle η φ α} {p : Pending η φ α} (name : String)
    (hh : s.handles.lookup handle = some h)
    (hp : (h.init selector overrides s.world).value = .ok p) :
    (init handle selector overrides name s).state =
      { s with
        world := (h.init selector overrides s.world).state
        futures := s.futures ++ [(name, .binding p)] } := by
  simp [init, onWorld, wait, hh, hp]

/-- An init touches the world, and may leave something to wait for. -/
theorem init_state_frame (handle selector : String) (overrides : Option (Params α)) (name : String)
    (s : Scene η σ τ φ α) :
    ∃ world more, (init handle selector overrides name s).state =
      { s with world, futures := s.futures ++ more } := by
  cases hh : s.handles.lookup handle with
  | none => exact ⟨s.world, [], by simp [init_state_of_absent selector overrides name hh]⟩
  | some h =>
    rcases hp : (h.init selector overrides s.world).value with _ | p
    · refine ⟨(h.init selector overrides s.world).state, [], ?_⟩
      rw [init_state_of_error name hh hp, List.append_nil]
    · exact ⟨_, _, init_state_of_ok name hh hp⟩

theorem Change.init {s : Scene η σ τ φ α} (x : Step η σ φ α) (h : Handle η φ α)
    (selector : String) (overrides : Option (Params α)) :
    s.Change x (h.init selector overrides s.world).state.loads := by
  rcases Handle.init_cases h selector overrides s.world with ⟨-, hw⟩ | ⟨-, hw⟩ | ⟨hosts, -, hw⟩
  · exact hw ▸ .kept x
  · exact hw ▸ .kept x
  · exact hw ▸ .ready x h.gate h.host h.polyfillUrl rfl

theorem bound_of_init {w : World σ τ} {h : Handle η φ α} {selector : String}
    {overrides : Option (Params α)} {p : Pending η φ α}
    (hp : (h.init selector overrides w).value = .ok p) :
    (Future.binding p).Bound (h.init selector overrides w).state := by
  obtain ⟨-, hpending, -, hload⟩ := Handle.init_ok hp
  intro id hid
  obtain ⟨l, hl, hfor⟩ := hload id hid
  refine ⟨l, hl, (Load.isFor_iff.mp hfor).2.trans ?_⟩
  rw [hpending]
  rfl

variable [Factory φ σ κ ν α β ι]

theorem poll_of_absent {place : Nat} {s : Scene η σ τ φ α} (h : s.futures[place]? = none) :
    poll place s = { value := none, state := s } := by
  simp [poll, h]

theorem poll_of_future {place : Nat} {s : Scene η σ τ φ α} {name : String} {f : Future η φ α}
    (h : s.futures[place]? = some (name, f)) :
    poll place s =
      { value := some (f.poll s.world).value
        state := { s with
          world := (f.poll s.world).state
          futures := if (f.poll s.world).value.isPending then s.futures
            else s.futures.eraseIdx place }
        calls := (f.poll s.world).calls
        events := (f.poll s.world).events } := by
  cases hp : (f.poll s.world).value.isPending <;> simp [poll, onWorld, h, hp]

/-- A poll touches the world and what is being waited for. -/
theorem poll_state_frame (place : Nat) (s : Scene η σ τ φ α) :
    ∃ world futures, (poll place s).state = { s with world, futures } := by
  rcases hf : s.futures[place]? with _ | ⟨name, f⟩
  · exact ⟨s.world, s.futures, by simp [poll_of_absent hf]⟩
  · exact ⟨_, _, by rw [poll_of_future hf]⟩

@[simp] theorem step_init_state (handle selector : String) (overrides : Option (Params α))
    (name : String) (s : Scene η σ τ φ α) :
    (step (.init handle selector overrides name) s).state =
      (init handle selector overrides name s).state := by
  rcases hv : (init handle selector overrides name s).value with _ | _ | _ <;> simp [step, hv]

@[simp] theorem step_ready_state (gate : GateId) (host : η) (url name : String)
    (s : Scene η σ τ φ α) :
    (step (.ready gate host url name) s).state = (ready gate host url name s).state := by
  simp [step]

@[simp] theorem step_poll_state (place : Nat) (s : Scene η σ τ φ α) :
    (step (.poll place) s).state = (poll place s).state := by
  simp [step]

theorem step_poll_of_future {place : Nat} {s : Scene η σ τ φ α} {name : String}
    {f : Future η φ α} (h : s.futures[place]? = some (name, f)) :
    step (.poll place) s =
      { value := .polled (f.poll s.world).value
        state := (poll place s).state
        calls := (f.poll s.world).calls
        events := (f.poll s.world).events } := by
  simp [step, poll_of_future h]

theorem step_poll_eq {place : Nat} {s : Scene η σ τ φ α} {e : String × Future η φ α}
    (h : s.futures[place]? = some e) :
    step (.poll place) s =
      { value := .polled (e.2.poll s.world).value
        state := { s with
          world := (e.2.poll s.world).state
          futures := if (e.2.poll s.world).value.isPending then s.futures
            else s.futures.eraseIdx place }
        calls := (e.2.poll s.world).calls
        events := (e.2.poll s.world).events } := by
  rw [step_poll_of_future h, poll_of_future h]

/-- The gate that a step may ask for a load, and the URL. -/
def asks (s : Scene η σ τ φ α) : Step η σ φ α → Option (GateId × String)
  | .ready gate _ url _ => some (gate, url)
  | .init handle _ _ _ =>
    (s.handles.lookup handle).map fun h => (h.gate, h.polyfillUrl)
  | _ => none

/-- What a step leaves to wait for a load is what the gate gave it. -/
theorem asked {s : Scene η σ τ φ α} {x : Step η σ φ α} {gate : GateId}
    {url name : String} {f : Future η φ α} {id : Nat}
    (hx : s.asks x = some (gate, url)) (hf : (step x s).state.futures = s.futures ++ [(name, f)])
    (hid : f.load? = some id) :
    ∃ (host : η) (w : World σ τ), w.loads = s.world.loads ∧
      (step x s).state.world = (Gate.ready gate host url w).state ∧
      id = (Gate.ready gate host url w).value ∧ f.url = url := by
  cases x with
  | ready gate' host url' name' =>
    obtain ⟨rfl, rfl⟩ := Prod.mk.inj (Option.some.inj hx)
    rw [step_ready_state, ready_state] at hf ⊢
    obtain ⟨-, rfl⟩ : name' = name ∧ _ = f := by simpa using hf
    exact ⟨host, s.world, rfl, rfl, (Option.some.inj hid).symm, rfl⟩
  | init handle selector overrides name' =>
    cases hh : s.handles.lookup handle with
    | none => simp [asks, hh] at hx
    | some h =>
      obtain ⟨rfl, rfl⟩ : h.gate = gate ∧ h.polyfillUrl = url := by simpa [asks, hh] using hx
      rw [step_init_state] at hf ⊢
      rcases Handle.init_cases h selector overrides s.world with ⟨hv, -⟩ | ⟨hv, -⟩ | ⟨hosts, hv, hw⟩
      · rw [init_state_of_error name' hh hv] at hf
        simp at hf
      · rw [init_state_of_ok name' hh hv] at hf
        obtain ⟨-, rfl⟩ : name' = name ∧ _ = f := by simpa using hf
        exact nomatch hid
      · rw [init_state_of_ok name' hh hv] at hf ⊢
        obtain ⟨-, rfl⟩ : name' = name ∧ _ = f := by simpa using hf
        exact ⟨h.host, { s.world with hosts }, rfl, hw, (Option.some.inj hid).symm, rfl⟩
  | _ => exact nomatch hx

theorem step_construct_of_absent {loader : String} {s : Scene η σ τ φ α} (id name : String)
    (hl : s.loaders.lookup loader = none) :
    step (.construct loader id name) s = { value := .absent, state := s } := by
  simp [step, construct, hl]

theorem step_construct_of_error {loader id : String} {s : Scene η σ τ φ α} {l : Loader η φ α}
    {e : LoaderError} (name : String) (hl : s.loaders.lookup loader = some l)
    (he : (l.construct id s.world.hosts).value = .error e) :
    step (.construct loader id name) s =
      let made := l.construct id s.world.hosts
      { value := .failed e
        state := { s with world := { s.world with hosts := made.state } }
        calls := made.calls
        events := made.events } := by
  simp [step, construct, onWorld, World.onHosts, hl, he]

theorem step_construct_of_ok {loader id : String} {s : Scene η σ τ φ α} {l : Loader η φ α}
    {h : Handle η φ α} (name : String) (hl : s.loaders.lookup loader = some l)
    (hh : (l.construct id s.world.hosts).value = .ok h) :
    step (.construct loader id name) s =
      let made := l.construct id s.world.hosts
      { value := .handle h
        state := { s with
          world := { s.world with hosts := made.state }
          handles := (name, h) :: s.handles }
        calls := made.calls
        events := made.events } := by
  simp [step, construct, onWorld, World.onHosts, setHandle, hl, hh]

theorem step_init_of_absent {handle : String} {s : Scene η σ τ φ α} (selector : String)
    (overrides : Option (Params α)) (name : String)
    (hh : s.handles.lookup handle = none) :
    step (.init handle selector overrides name) s = { value := .absent, state := s } := by
  simp [step, init, hh]

theorem step_init_of_error {handle selector : String} {overrides : Option (Params α)}
    {s : Scene η σ τ φ α} {h : Handle η φ α} {e : LoaderError} (name : String)
    (hh : s.handles.lookup handle = some h)
    (he : (h.init selector overrides s.world).value = .error e) :
    step (.init handle selector overrides name) s =
      let begun := h.init selector overrides s.world
      { value := .failed e
        state := { s with world := begun.state }
        calls := begun.calls
        events := begun.events } := by
  simp [step, init, onWorld, hh, he]

theorem step_init_of_ok {handle selector : String} {overrides : Option (Params α)}
    {s : Scene η σ τ φ α} {h : Handle η φ α} {p : Pending η φ α} (name : String)
    (hh : s.handles.lookup handle = some h)
    (hp : (h.init selector overrides s.world).value = .ok p) :
    step (.init handle selector overrides name) s =
      let begun := h.init selector overrides s.world
      { value := .done
        state := { s with world := begun.state, futures := s.futures ++ [(name, .binding p)] }
        calls := begun.calls
        events := begun.events } := by
  simp [step, init, onWorld, wait, hh, hp]

theorem step_construct_state (loader id name : String) (s : Scene η σ τ φ α) :
    (step (.construct loader id name) s).state.world.loads = s.world.loads ∧
      (step (.construct loader id name) s).state.futures = s.futures := by
  cases hl : s.loaders.lookup loader with
  | none => simp [step, construct, hl]
  | some l =>
    rcases hc : (l.construct id s.world.hosts).value with _ | _ <;>
      simp [step, construct, onWorld, World.onHosts, setHandle, hl, hc]

theorem step_clone_state (handle name : String) (s : Scene η σ τ φ α) :
    (step (.clone handle name) s).state.world.loads = s.world.loads ∧
      (step (.clone handle name) s).state.futures = s.futures := by
  cases hh : s.handles.lookup handle <;> simp [step, clone, setHandle, hh]

theorem step_change (x : Step η σ φ α) (s : Scene η σ τ φ α) :
    s.Change x (step x s).state.world.loads := by
  cases x with
  | init handle selector overrides name =>
    rw [step_init_state]
    cases hh : s.handles.lookup handle with
    | none =>
      rw [init_state_of_absent selector overrides name hh]
      exact .kept _
    | some h =>
      rcases hp : (h.init selector overrides s.world).value with e | p
      · rw [init_state_of_error name hh hp]
        exact .init _ h selector overrides
      · rw [init_state_of_ok name hh hp]
        exact .init _ h selector overrides
  | ready gate host url name =>
    rw [step_ready_state, ready_state]
    exact .ready _ gate host url rfl
  | settle id outcome =>
    simpa [step, onWorld, World.settle] using Change.settled (s := s) id outcome
  | poll place =>
    rw [step_poll_state]
    cases hf : s.futures[place]? with
    | none =>
      rw [poll_of_absent hf]
      exact .kept _
    | some e =>
      obtain ⟨name, f⟩ := e
      simp only [poll_of_future hf, Future.poll_loads]
      cases hid : f.load? with
      | none => exact .kept _
      | some id => exact .told hf hid
  | construct loader id name =>
    rw [(step_construct_state loader id name s).1]
    exact .kept _
  | clone handle name =>
    rw [(step_clone_state handle name s).1]
    exact .kept _
  | hosts change => exact .kept _
  | loader name registry config host gate => exact .kept _
  | dropLoader name => exact .kept _
  | isLoaded gate url => exact .kept _
  | drop place => exact .kept _

theorem Change.grows {s : Scene η σ τ φ α} {x : Step η σ φ α} {w : World σ τ}
    (h : s.Change x w.loads) : s.world.Grows w := by
  generalize hw : w.loads = loads at h
  cases h with
  | kept => exact .of_eq hw
  | begun => exact .append hw
  | settled id outcome => exact .modify hw (Load.grows_settle outcome)
  | told => exact .modify hw Load.grows_deliver

theorem step_grows (x : Step η σ φ α) (s : Scene η σ τ φ α) :
    s.world.Grows (step x s).state.world :=
  (step_change x s).grows

theorem step_futures (x : Step η σ φ α) (s : Scene η σ τ φ α) :
    ∀ e ∈ (step x s).state.futures, e ∈ s.futures ∨ e.2.Bound (step x s).state.world := by
  intro e he
  cases x with
  | init handle selector overrides name =>
    rw [step_init_state] at he ⊢
    cases hh : s.handles.lookup handle with
    | none =>
      rw [init_state_of_absent selector overrides name hh] at he
      exact .inl he
    | some h =>
      rcases hp : (h.init selector overrides s.world).value with _ | p
      · rw [init_state_of_error name hh hp] at he
        exact .inl he
      · rw [init_state_of_ok name hh hp] at he ⊢
        rcases List.mem_append.mp he with he | he
        · exact .inl he
        · obtain rfl := List.mem_singleton.mp he
          exact .inr (bound_of_init hp)
  | ready gate host url name =>
    rw [step_ready_state, ready_state] at he ⊢
    rcases List.mem_append.mp he with he | he
    · exact .inl he
    · obtain rfl := List.mem_singleton.mp he
      obtain ⟨l, hl, hfor⟩ := Gate.ready_on_record gate host url s.world
      refine .inr fun id hid => ?_
      obtain rfl := Option.some.inj hid
      exact ⟨l, hl, (Load.isFor_iff.mp hfor).2⟩
  | poll place =>
    rw [step_poll_state] at he
    cases hf : s.futures[place]? with
    | none =>
      rw [poll_of_absent hf] at he
      exact .inl he
    | some e =>
      simp only [poll_of_future hf] at he
      split_ifs at he
      · exact .inl he
      · exact .inl (List.mem_of_mem_eraseIdx he)
  | construct loader id name =>
    rw [(step_construct_state loader id name s).2] at he
    exact .inl he
  | clone handle name =>
    rw [(step_clone_state handle name s).2] at he
    exact .inl he
  | drop place => exact .inl (List.mem_of_mem_eraseIdx he)
  | hosts change => exact .inl he
  | loader name registry config host gate => exact .inl he
  | dropLoader name => exact .inl he
  | isLoaded gate url => exact .inl he
  | settle id outcome => exact .inl he

def after (steps : List (Step η σ φ α)) (s : Scene η σ τ φ α) : Scene η σ τ φ α :=
  (run steps s).state

@[simp] theorem after_nil (s : Scene η σ τ φ α) : s.after [] = s := rfl

@[simp] theorem after_cons (x : Step η σ φ α) (steps : List (Step η σ φ α))
    (s : Scene η σ τ φ α) : s.after (x :: steps) = (step x s).state.after steps := by
  simp [after, run]

theorem after_append (steps more : List (Step η σ φ α)) (s : Scene η σ τ φ α) :
    s.after (steps ++ more) = (s.after steps).after more := by
  induction steps generalizing s with
  | nil => rfl
  | cons x steps ih => simp only [List.cons_append, after_cons, ih]

theorem after_concat (steps : List (Step η σ φ α)) (x : Step η σ φ α) (s : Scene η σ τ φ α) :
    s.after (steps ++ [x]) = (step x (s.after steps)).state := by
  rw [after_append, after_cons, after_nil]

theorem after_grows (steps : List (Step η σ φ α)) (s : Scene η σ τ φ α) :
    s.world.Grows (s.after steps).world := by
  induction steps generalizing s with
  | nil => exact .of_eq rfl
  | cons x steps ih =>
    rw [after_cons]
    exact (step_grows x s).trans (ih _)

/-- What holds at the end of a run and not at its start has come to hold at one of its steps. -/
theorem exists_step {P : Scene η σ τ φ α → Prop} {steps : List (Step η σ φ α)}
    {s : Scene η σ τ φ α} (hs : ¬ P s) (h : P (s.after steps)) :
    ∃ before x rest, steps = before ++ x :: rest ∧ ¬ P (s.after before) ∧
      P (step x (s.after before)).state := by
  induction steps generalizing s with
  | nil => exact absurd h hs
  | cons x steps ih =>
    by_cases hx : P (step x s).state
    · exact ⟨[], x, steps, rfl, hs, hx⟩
    · rw [after_cons] at h
      obtain ⟨before, y, rest, rfl, hbefore, hy⟩ := ih hx h
      exact ⟨x :: before, y, rest, rfl, by simpa using hbefore, by simpa using hy⟩

/-- The step begins a load at a place of the record, by a call on a host. -/
def Begins (s : Scene η σ τ φ α) (x : Step η σ φ α) (id : LoadId) (gate : GateId)
    (url : String) : Prop :=
  s.world.loads.length = id ∧ s.world.isDue gate url = true ∧
    ∃ (host : η) (hosts : σ), (step x s).state.world.loads =
      s.world.loads ++ [Gate.begun gate url (Host.loadScript host url hosts).value]

/-- Every load of a gate that has come onto the record was begun at some step. -/
theorem begun_at {steps : List (Step η σ φ α)} {s : Scene η σ τ φ α} {id : Nat} {l : Load τ}
    {gate : GateId} {url : String} (hs : s.world.loads.length ≤ id)
    (hl : (s.after steps).world.loads[id]? = some l) (hfor : l.isFor gate url = true) :
    ∃ before x rest, steps = before ++ x :: rest ∧ (s.after before).Begins x id gate url := by
  obtain ⟨before, x, rest, rfl, hbefore, hx⟩ :=
    exists_step (P := fun s => id < s.world.loads.length) (by omega)
      (List.getElem?_eq_some_iff.mp hl).1
  refine ⟨before, x, rest, rfl, ?_⟩
  have hg : (step x (s.after before)).state.world.Grows (s.after (before ++ x :: rest)).world := by
    rw [after_append, after_cons]
    exact after_grows rest _
  have hc := step_change x (s.after before)
  -- The record has become longer by this step, which only a load that begins can do.
  generalize hw : (step x (s.after before)).state.world.loads = loads at hc hx
  cases hc with
  | @begun _ gate' url' host hosts hdue =>
    simp only [List.length_append, List.length_singleton] at hx
    have hid : (s.after before).world.loads.length = id := by omega
    obtain ⟨m, hm, hgrows⟩ := hg id _ (by rw [hw, ← hid, List.getElem?_concat_length])
    obtain rfl := Option.some.inj (hl.symm.trans hm)
    rw [hgrows.isFor] at hfor
    obtain ⟨rfl, rfl⟩ := Gate.begun_isFor_iff.mp hfor
    exact ⟨hid, hdue, host, hosts, hw⟩
  | kept => exact absurd hx hbefore
  | settled => exact absurd (by simpa using hx) hbefore
  | told => exact absurd (by simpa using hx) hbefore

/-- Outcomes are delivered by polls of what waits for them. -/
theorem delivered_at {steps : List (Step η σ φ α)} {s : Scene η σ τ φ α} {id : LoadId}
    {o : Outcome} {l : Load τ}
    (hs : ∀ l, s.world.loads[id]? = some l → l.progress ≠ .delivered o)
    (hl : (s.after steps).world.loads[id]? = some l) (ho : l.progress = .delivered o) :
    ∃ before place rest name f l, steps = before ++ .poll place :: rest ∧
      (s.after before).futures[place]? = some (name, f) ∧ f.load? = some id ∧
      (s.after before).world.loads[id]? = some l ∧ l.progress = .settled o := by
  obtain ⟨before, x, rest, rfl, hbefore, m, hm, ho⟩ :=
    exists_step (P := fun s => ∃ l, s.world.loads[id]? = some l ∧ l.progress = .delivered o)
      (fun ⟨l, hl, ho⟩ => hs l hl ho) ⟨l, hl, ho⟩
  have hc := step_change x (s.after before)
  -- Neither beginning nor settling a load delivers anything, so the step is a poll.
  generalize (step x (s.after before)).state.world.loads = loads at hc hm
  cases hc with
  | kept => exact absurd ⟨m, hm, ho⟩ hbefore
  | begun =>
    rcases World.getElem?_concat hm with ⟨-, hm⟩ | ⟨-, rfl⟩
    · exact absurd ⟨m, hm, ho⟩ hbefore
    · exact absurd ho (Gate.begun_not_delivered _ _ _ o)
  | settled i outcome =>
    obtain ⟨n, hn, rfl⟩ := World.getElem?_modify hm
    refine absurd ⟨n, hn, ?_⟩ hbefore
    split_ifs at ho
    · exact Load.delivered_of_settle ho
    · exact ho
  | @told place name f i hf hi =>
    obtain ⟨n, hn, rfl⟩ := World.getElem?_modify hm
    split_ifs at ho with hid
    · subst hid
      refine ⟨before, place, rest, name, f, n, rfl, hf, hi, hn, ?_⟩
      exact (Load.settled_or_delivered_of_deliver ho).resolve_right fun h => hbefore ⟨n, hn, h⟩
    · exact absurd ⟨n, hn, ho⟩ hbefore

/-- What a poll finds to have ended is delivered from then on. -/
theorem delivered_of_poll {before : List (Step η σ φ α)} {s : Scene η σ τ φ α} {place : Nat}
    {name : String} {f : Future η φ α} {id : LoadId} {l : Load τ} {o : Outcome}
    (rest : List (Step η σ φ α)) (hf : (s.after before).futures[place]? = some (name, f))
    (hid : f.load? = some id)
    (hl : (s.after before).world.loads[id]? = some l) (ho : l.outcome? = some o) :
    ∃ m, (s.after (before ++ .poll place :: rest)).world.loads[id]? = some m ∧ l.Grows m ∧
      m.progress = .delivered o := by
  have hpolled : (step (.poll place) (s.after before)).state.world.loads[id]? = some l.deliver := by
    simp [poll_of_future hf, Future.poll_loads, hid, hl]
  rw [after_append, after_cons]
  obtain ⟨m, hm, hg⟩ := after_grows rest _ id _ hpolled
  exact ⟨m, hm, (Load.grows_deliver l).trans hg, hg.delivered o (Load.deliver_progress ho)⟩

/-- Hosts over which nothing has happened yet. -/
def initial (hosts : σ) : Scene η σ τ φ α := { world := { hosts } }

/-- What a run over some hosts can lead to. -/
def Reachable (s : Scene η σ τ φ α) : Prop :=
  ∃ (hosts : σ) (steps : List (Step η σ φ α)), s = (initial hosts).after steps

theorem reachable_initial (hosts : σ) : (initial hosts : Scene η σ τ φ α).Reachable :=
  ⟨hosts, [], rfl⟩

theorem Reachable.after {s : Scene η σ τ φ α} (h : s.Reachable) (more : List (Step η σ φ α)) :
    (s.after more).Reachable := by
  obtain ⟨hosts, steps, rfl⟩ := h
  exact ⟨hosts, steps ++ more, (after_append steps more _).symm⟩

theorem Reachable.step {s : Scene η σ τ φ α} (h : s.Reachable) (x : Step η σ φ α) :
    (step x s).state.Reachable := by
  simpa using h.after [x]

/-- What every step keeps, and holds over hosts at first, holds of whatever is reachable. -/
theorem Reachable.induction {P : Scene η σ τ φ α → Prop} {s : Scene η σ τ φ α} (h : s.Reachable)
    (hinitial : ∀ hosts, P (Scene.initial hosts))
    (hstep : ∀ (s : Scene η σ τ φ α) (x : Step η σ φ α), P s → P (Scene.step x s).state) :
    P s := by
  obtain ⟨hosts, steps, rfl⟩ := h
  induction steps using List.reverseRecOn with
  | nil => exact hinitial hosts
  | append_singleton steps x ih =>
    rw [after_concat]
    exact hstep _ x ih

theorem Reachable.bound {s : Scene η σ τ φ α} (h : s.Reachable) :
    ∀ e ∈ s.futures, e.2.Bound s.world := by
  refine h.induction (P := fun s => ∀ e ∈ s.futures, e.2.Bound s.world) ?_ ?_
  · simp [initial]
  · intro s x ih e he
    rcases step_futures x s e he with h | h
    · exact (ih e h).grows (step_grows x s)
    · exact h

end

end Scene

end CreationLoader
