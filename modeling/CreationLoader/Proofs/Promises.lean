import CreationLoader.Proofs.PageSteps

/-!
# What is done for a promise

A run of the job queue goes on with one promise after the other. What it does for each can be
told apart, and a promise that has settled is left alone: so a creation that is being bound is
made at most once, whatever a script does in the meantime.
-/

namespace CreationLoader

@[simp] theorem Load.deliver_deliver {τ : Type} (l : Load τ) : l.deliver.deliver = l.deliver := by
  cases h : l.progress <;> simp [deliver, h]

/-- A world and a later one, where the outcomes of some loads have been told since. -/
def World.Told {σ τ : Type} (w v : World σ τ) : Prop :=
  ∀ id : LoadId, v.loads[id]? = w.loads[id]? ∨ v.loads[id]? = (w.loads[id]?).map Load.deliver

namespace World
variable {σ τ : Type} {u v w : World σ τ}

theorem Told.of_eq (h : v.loads = w.loads) : w.Told v := fun id => .inl (by rw [h])

theorem Told.modify {id : LoadId} (h : v.loads = w.loads.modify id Load.deliver) : w.Told v := by
  intro i
  rw [h, List.getElem?_modify]
  by_cases hi : id = i
  · exact .inr (by simp [hi])
  · exact .inl (by simp [hi])

theorem Told.trans (h : u.Told v) (k : v.Told w) : u.Told w := by
  intro id
  rcases h id with h | h <;> rcases k id with k | k
  · exact .inl (k.trans h)
  · exact .inr (by rw [k, h])
  · exact .inr (by rw [k, h])
  · exact .inr (by simp [k, h, Function.comp_def])

theorem Told.grows (h : w.Told v) : w.Grows v := by
  intro id l hl
  rcases h id with hv | hv
  · exact ⟨l, hv.trans hl, .refl l⟩
  · exact ⟨l.deliver, by rw [hv, hl, Option.map_some], l.grows_deliver⟩

theorem Told.length (h : w.Told v) : v.loads.length = w.loads.length := by
  have hnone (id : LoadId) : v.loads.length ≤ id ↔ w.loads.length ≤ id := by
    rw [← List.getElem?_eq_none_iff, ← List.getElem?_eq_none_iff]
    rcases h id with hv | hv
    · rw [hv]
    · rw [hv, Option.map_eq_none_iff]
  have hleft := hnone v.loads.length
  have hright := hnone w.loads.length
  omega

end World

namespace Browser.Session
open Script

/-- What the making of instances settles a promise to. -/
def settledBy : Except LoaderError (List Instance) → Settled
  | .error e => .failed e.message
  | .ok made => .instances made

theorem runJob_binding (pending : Pending Document Class Value) (s : Session) :
    runJob (.binding pending) s =
      let polled := pending.poll s.world
      { value := polled.value.map settledBy
        state := { s with world := polled.state }
        calls := polled.calls
        events := polled.events } := by
  rcases hv : (pending.poll s.world).value with _ | _ | _ <;>
    simp [runJob, onWorld, hv, settledBy]

theorem runJob_load (id : LoadId) (s : Session) :
    (runJob (.load id) s).state =
        { s with world := { s.world with loads := s.world.loads.modify id Load.deliver } } ∧
      (runJob (.load id) s).calls = [] := by
  rcases ho : (s.world.loads[id]?).bind Load.outcome? with _ | _ | _ <;>
    simp [runJob, onWorld, Gate.await_apply, ho]

/-- A job leaves the script elements as they are, and tells the outcome of the load that it
waits for. -/
theorem runJob_frame (j : Job) (s : Session) :
    ∃ world, (runJob j s).state = { s with world } ∧
      world.hosts.scripts = s.world.hosts.scripts ∧ s.world.Told world := by
  cases j with
  | binding pending =>
    obtain ⟨hloads, hhosts⟩ := pending.poll_cases s.world
    refine ⟨(pending.poll s.world).state, by rw [runJob_binding], ?_, ?_⟩
    · rcases hhosts with ⟨h, -⟩ | ⟨-, h, -⟩
      · rw [h]
      · rw [h]
        exact covers_scripts.instantiate pending s.world.hosts
    · cases hload : pending.load with
      | none => exact .of_eq (by rw [hloads, hload]; rfl)
      | some id => exact .modify (by rw [hloads, hload]; rfl)
  | load id => exact ⟨_, (runJob_load id s).1, rfl, .modify rfl⟩

/-- Goes on with a promise, unless it has settled. -/
def goOn (p : Promise) : Run Promise := do
  match p.settled with
  | some _ => pure p
  | none => pure { p with settled := ← runJob p.job }

theorem goOn_of_settled {p : Promise} {result : Settled} (h : p.settled = some result)
    (s : Session) : goOn p s = { value := p, state := s } := by
  simp [goOn, h]

theorem goOn_of_open {p : Promise} (h : p.settled = none) (s : Session) :
    goOn p s =
      let ran := runJob p.job s
      { value := { p with settled := ran.value }
        state := ran.state
        calls := ran.calls
        events := ran.events } := by
  simp [goOn, h]

theorem goOn_job (p : Promise) (s : Session) : (goOn p s).value.job = p.job := by
  cases h : p.settled with
  | none => rw [goOn_of_open h]
  | some result => rw [goOn_of_settled h]

theorem goOn_frame (p : Promise) (s : Session) :
    ∃ world, (goOn p s).state = { s with world } ∧
      world.hosts.scripts = s.world.hosts.scripts ∧ s.world.Told world := by
  cases h : p.settled with
  | none =>
    rw [goOn_of_open h]
    exact runJob_frame p.job s
  | some result =>
    rw [goOn_of_settled h]
    exact ⟨s.world, rfl, rfl, .of_eq rfl⟩

@[simp] theorem runJobs_nil (s : Session) : runJobs [] s = { value := [], state := s } := rfl

theorem runJobs_cons (p : Promise) (rest : List Promise) (s : Session) :
    runJobs (p :: rest) s =
      let first := goOn p s
      let others := runJobs rest first.state
      { value := first.value :: others.value
        state := others.state
        calls := first.calls ++ others.calls
        events := first.events ++ others.events } := by
  cases h : p.settled with
  | none => simp [runJobs, goOn_of_open h, h]
  | some result => simp [runJobs, goOn_of_settled h, h]

theorem runJobs_frame (ps : List Promise) (s : Session) :
    ∃ world, (runJobs ps s).state = { s with world } ∧
      world.hosts.scripts = s.world.hosts.scripts ∧ s.world.Told world := by
  induction ps generalizing s with
  | nil => exact ⟨s.world, rfl, rfl, .of_eq rfl⟩
  | cons p rest ih =>
    obtain ⟨middle, hfirst, hscripts, htold⟩ := goOn_frame p s
    obtain ⟨last, hothers, hscripts', htold'⟩ := ih (goOn p s).state
    refine ⟨last, ?_, ?_, ?_⟩
    · rw [runJobs_cons, hothers, hfirst]
    · rw [hscripts', hfirst, hscripts]
    · rw [hfirst] at htold'
      exact htold.trans htold'

/-- The session in which a run of the job queue comes to the promise at a place. -/
def turn (s : Session) (place : Nat) : Session := (runJobs (s.promises.take place) s).state

/-- What a run of the job queue asks for when it goes on with the promise at a place. -/
def callsAt (s : Session) (place : Nat) : List Call :=
  (s.promises[place]?).elim [] fun p => (goOn p (s.turn place)).calls

theorem runJobs_getElem? (ps : List Promise) (s : Session) (place : Nat) :
    (runJobs ps s).value[place]? =
      (ps[place]?).map fun p => (goOn p (runJobs (ps.take place) s).state).value := by
  induction ps generalizing s place with
  | nil => simp [runJobs]
  | cons p rest ih =>
    cases place with
    | zero => simp [runJobs_cons]
    | succ place => simp [runJobs_cons, ih]

theorem runJobs_calls (ps : List Promise) (s : Session) :
    (runJobs ps s).calls = (List.range ps.length).flatMap fun place =>
      (ps[place]?).elim [] fun p => (goOn p (runJobs (ps.take place) s).state).calls := by
  induction ps generalizing s with
  | nil => rfl
  | cons p rest ih =>
    rw [List.length_cons, List.range_succ_eq_map, runJobs_cons]
    simp only [List.flatMap_cons, List.flatMap_map, ih]
    congr 1
    simp [runJobs_cons]

theorem run_state (s : Session) :
    (run s).state =
      { (runJobs s.promises s).state with
        promises := (runJobs s.promises s).value.map fun p =>
          { p with told := p.settled.isSome } } := by
  simp [run]

/-- A run of the job queue asks for what it asks for the promises, in order. -/
theorem run_calls (s : Session) :
    (run s).calls = (List.range s.promises.length).flatMap s.callsAt := by
  have hcalls : (run s).calls = (runJobs s.promises s).calls := by simp [run]
  rw [hcalls, runJobs_calls]
  rfl

theorem run_frame (s : Session) :
    ∃ world promises, (run s).state = { s with world, promises } ∧
      world.hosts.scripts = s.world.hosts.scripts ∧ s.world.Told world := by
  obtain ⟨world, hstate, hscripts, htold⟩ := runJobs_frame s.promises s
  exact ⟨world, _, by rw [run_state, hstate], hscripts, htold⟩

variable {s : Session} {place : Nat} {p : Promise}

theorem run_promise (hp : s.promises[place]? = some p) :
    ∃ q, (run s).state.promises[place]? = some q ∧ q.job = p.job ∧
      q.settled = (goOn p (s.turn place)).value.settled := by
  let q := (goOn p (s.turn place)).value
  refine ⟨{ q with told := q.settled.isSome }, ?_, goOn_job p (s.turn place), rfl⟩
  rw [run_state, List.getElem?_map, runJobs_getElem?, hp]
  rfl

theorem step_promise {x : Step} (hx : x ≠ .run) (hp : s.promises[place]? = some p) :
    (step x s).state.promises[place]? = some p := by
  have hchange := step_change x s
  generalize hv : (step x s).state = v at hchange
  have happend (more : List Promise) : (s.promises ++ more)[place]? = some p := by
    rw [List.getElem?_append_left (List.getElem?_eq_some_iff.mp hp).1, hp]
  cases hchange with
  | kept _ hkept =>
    obtain ⟨page, names, -, rfl⟩ := hkept
    exact hp
  | loader name _ hkept =>
    obtain ⟨page, names, -, rfl⟩ := hkept
    exact hp
  | handle name _ hkept =>
    obtain ⟨page, names, -, rfl⟩ := hkept
    exact hp
  | bound _ hkept =>
    obtain ⟨page, names, -, rfl⟩ := hkept
    exact happend _
  | load url name =>
    rcases askHost_loadScript_state url name s with hstate | ⟨d, hstate⟩
    · rw [hstate]
      exact hp
    · rw [hstate]
      exact happend _
  | ran => exact absurd rfl hx
  | fired script event =>
    rcases fire_frame script event s with hstate | ⟨id, outcome, hstate⟩
    · rw [hstate]
      exact hp
    · rw [hstate]
      exact hp

/-- What the runs of the job queue among some steps ask for when they go on with the promise at
a place. -/
def callsFor (s : Session) (place : Nat) : List Step → List Call
  | [] => []
  | .run :: rest => s.callsAt place ++ (run s).state.callsFor place rest
  | x :: rest => (step x s).state.callsFor place rest

theorem callsFor_run (rest : List Step) :
    s.callsFor place (.run :: rest) = s.callsAt place ++ (run s).state.callsFor place rest := by
  rw [callsFor]

theorem callsFor_of_ne {x : Step} (hx : x ≠ .run) (rest : List Step) :
    s.callsFor place (x :: rest) = (step x s).state.callsFor place rest := by
  rw [callsFor]
  exact hx

theorem callsAt_of_settled {result : Settled} (hp : s.promises[place]? = some p)
    (hsettled : p.settled = some result) : s.callsAt place = [] := by
  rw [callsAt, hp, Option.elim_some, goOn_of_settled hsettled]

/-- Nothing more is done for a promise that has settled. -/
theorem callsFor_of_settled {result : Settled} (hp : s.promises[place]? = some p)
    (hsettled : p.settled = some result) (steps : List Step) : s.callsFor place steps = [] := by
  induction steps generalizing s p with
  | nil => rfl
  | cons x rest ih =>
    by_cases hx : x = .run
    · subst hx
      obtain ⟨q, hq, -, hresult⟩ := run_promise hp
      rw [goOn_of_settled hsettled] at hresult
      rw [callsFor_run, callsAt_of_settled hp hsettled, ih hq (hresult.trans hsettled),
        List.nil_append]
    · rw [callsFor_of_ne hx]
      exact ih (step_promise hx hp) hsettled

/-- Going on with a creation that is being bound either makes no calls, or makes the instances
and settles the promise. -/
theorem goOn_binding {pending : Pending Document Class Value} (hopen : p.settled = none)
    (hjob : p.job = .binding pending) (v : Session) :
    (goOn p v).calls = [] ∨
      ((goOn p v).calls = (pending.instantiate v.world.hosts).calls ∧
        ∃ result, (goOn p v).value.settled = some result) := by
  obtain ⟨-, hcases⟩ := pending.poll_cases v.world
  rw [goOn_of_open hopen, hjob, runJob_binding]
  rcases hcases with ⟨-, hcalls⟩ | ⟨hvalue, -, hcalls⟩
  · exact .inl hcalls
  · exact .inr ⟨hcalls, _, congrArg (Option.map settledBy) hvalue⟩

/-- A creation that is being bound is made at most once: all that is done for its promise is done
in one run of the job queue, or nothing is done. -/
theorem callsFor_binding {pending : Pending Document Class Value}
    (hp : s.promises[place]? = some p) (hjob : p.job = .binding pending) (steps : List Step) :
    s.callsFor place steps = [] ∨ ∃ before rest, steps = before ++ .run :: rest ∧
      s.callsFor place steps =
        (pending.instantiate ((s.after before).turn place).world.hosts).calls := by
  induction steps generalizing s p with
  | nil => exact .inl rfl
  | cons x rest ih =>
    cases hsettled : p.settled with
    | some result => exact .inl (callsFor_of_settled hp hsettled (x :: rest))
    | none =>
      by_cases hx : x = .run
      · subst hx
        obtain ⟨q, hq, hqjob, hresult⟩ := run_promise hp
        have hat : s.callsAt place = (goOn p (s.turn place)).calls := by
          rw [callsAt, hp, Option.elim_some]
        rw [callsFor_run, hat]
        rcases goOn_binding hsettled hjob (s.turn place) with hcalls | ⟨hcalls, result, hr⟩
        · rw [hcalls, List.nil_append]
          rcases ih hq (hqjob.trans hjob) with hnone | ⟨before, rest', rfl, hmade⟩
          · exact .inl hnone
          · exact .inr ⟨.run :: before, rest', rfl, hmade⟩
        · rw [callsFor_of_settled hq (hresult.trans hr) rest, List.append_nil]
          exact .inr ⟨[], rest, rfl, hcalls⟩
      · rw [callsFor_of_ne hx]
        rcases ih (step_promise hx hp) hjob with hnone | ⟨before, rest', rfl, hmade⟩
        · exact .inl hnone
        · exact .inr ⟨x :: before, rest', rfl, hmade⟩

end Browser.Session

end CreationLoader
