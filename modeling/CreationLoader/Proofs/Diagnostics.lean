import CreationLoader.Proofs.Polling

/-!
# Lines on the console

A call that fails before it has started anything writes one line to the console of its host, and
reports one warning that carries the error. Nothing else writes lines or reports such warnings:
so the lines and the warnings of a run are, in order, those of the calls that have failed.
-/

namespace CreationLoader
variable {η σ κ ν τ φ α β ι ρ θ : Type}

/-- The warning that a call has failed before it has started anything. -/
def Event.isAbort : Event → Bool
  | aborted _ => true
  | _ => false

theorem Event.isAbort_eq (e : Event) : e.isAbort = (e.message == "wooble loader aborted") := by
  cases e <;> rfl

namespace Effect

/-- The lines that were written, each with the host on whose console it stands. -/
def lines (e : Effect σ (Request η φ ν α β) ρ) : List (η × String) :=
  e.calls.filterMap Request.line?

def aborts (e : Effect σ κ ρ) : List Event := e.events.filter Event.isAbort

/-- There is one line and one warning for each of the failures, in order. -/
structure Diagnoses (e : Effect σ (Request η φ ν α β) ρ) (failures : List (η × LoaderError)) :
    Prop where
  lines : e.lines.map (fun l => (l.1, some l.2)) = failures.map fun f => (f.1, f.2.diagnostic)
  aborts : e.aborts = failures.map fun f => .aborted f.2

end Effect

namespace Action
open Effect (Diagnoses)
variable {x : Action σ (Request η φ ν α β) ρ} {f : ρ → Action σ (Request η φ ν α β) θ} {s : σ}
  {first second : List (η × LoaderError)}

theorem diagnoses_bind (hx : (x s).Diagnoses first)
    (hf : (f (x s).value (x s).state).Diagnoses second) :
    ((x >>= f) s).Diagnoses (first ++ second) := by
  constructor
  · have hlines : ((x >>= f) s).lines = (x s).lines ++ (f (x s).value (x s).state).lines := by
      simp [Effect.lines]
    rw [hlines, List.map_append, List.map_append, hx.lines, hf.lines]
  · have haborts : ((x >>= f) s).aborts = (x s).aborts ++ (f (x s).value (x s).state).aborts := by
      simp [Effect.aborts]
    rw [haborts, List.map_append, hx.aborts, hf.aborts]

/-- Nothing is written, and no call is said to have failed. -/
def Silent (x : Action σ (Request η φ ν α β) ρ) : Prop := ∀ s, (x s).Diagnoses []

theorem Silent.bind (hx : x.Silent) (hf : ∀ a, (f a).Silent) : (x >>= f).Silent :=
  fun s => diagnoses_bind (hx s) (hf _ _)

theorem silent_pure (a : ρ) : (pure a : Action σ (Request η φ ν α β) ρ).Silent :=
  fun _ => ⟨rfl, rfl⟩

theorem silent_get : (get : Action σ (Request η φ ν α β) σ).Silent := fun _ => ⟨rfl, rfl⟩

theorem silent_modify (g : σ → σ) : (modify g : Action σ (Request η φ ν α β) Unit).Silent :=
  fun _ => ⟨rfl, rfl⟩

theorem silent_report {e : Event} (h : e.isAbort = false) :
    (report e : Action σ (Request η φ ν α β) Unit).Silent :=
  fun _ => ⟨rfl, by simp [Effect.aborts, h]⟩

theorem silent_meets {y : Action σ κ ρ} {request : Request η φ ν α β}
    (h : request.line? = none) : (y.meets request).Silent :=
  fun _ => ⟨by simp [Effect.lines, meets, h], rfl⟩

theorem diagnoses_onPart {σ' : Type} {part : σ' → σ} {replace : σ' → σ → σ'} {s' : σ'}
    (h : (x (part s')).Diagnoses first) : (x.onPart part replace s').Diagnoses first :=
  ⟨h.lines, h.aborts⟩

theorem Silent.onPart {σ' : Type} {part : σ' → σ} {replace : σ' → σ → σ'} (h : x.Silent) :
    (x.onPart part replace).Silent :=
  fun _ => diagnoses_onPart (h _)

end Action

open CreationLoader.Action

variable [Host η σ κ ν τ] [Factory φ σ κ ν α β ι]

theorem Gate.silent_start (gate : GateId) (host : WatchedHost η φ) (url : String) :
    (start gate host url : Action (World σ τ) (Request η φ ν α β) LoadId).Silent := by
  refine .bind (silent_report rfl) fun _ => .bind (silent_meets rfl).onPart fun script => ?_
  exact .bind silent_get fun _ => .bind (silent_modify _) fun _ => silent_pure _

theorem Gate.silent_ready (gate : GateId) (host : WatchedHost η φ) (url : String) :
    (ready gate host url : Action (World σ τ) (Request η φ ν α β) LoadId).Silent := by
  refine .bind silent_get fun w => ?_
  cases w.current? gate url with
  | none => exact silent_start gate host url
  | some id =>
    dsimp only
    rcases w.progress? id with _ | _ | _ | (_ | _)
    · exact .bind (silent_report rfl) fun _ => silent_pure _
    · exact .bind (silent_report rfl) fun _ => silent_pure _
    · exact .bind (silent_report rfl) fun _ => silent_pure _
    · exact silent_pure _
    · exact .bind (silent_report rfl) fun _ => silent_start gate host url

theorem silent_covers :
    Covers (WatchedHost η φ) (WatchedFactory η φ) fun (x : Action σ (Request η φ ν α β) _) =>
      x.Silent where
  pure := silent_pure
  bind := Silent.bind
  queryAll _ _ := silent_meets rfl
  instantiating _ _ _ := silent_report rfl
  prepare _ _ := silent_meets rfl
  create _ _ _ := silent_meets rfl
  creationFailed _ _ := silent_report rfl

theorem Future.aborts_news (f : Future η φ α) (loads : List (Load τ)) :
    (f.news loads).filter Event.isAbort = [] := by
  rcases f.news_cases loads with h | ⟨_, _, _, _, _, h⟩ <;> simp [h, Event.isAbort]

theorem Future.silent_poll (f : Future (WatchedHost η φ) (WatchedFactory η φ) α) :
    (f.poll : Action (World σ τ) _ _).Silent := by
  intro w
  have hnext := proceed_of_covers silent_covers f (f.outcome? w.loads) w.hosts
  rw [poll_eq]
  refine ⟨hnext.lines, ?_⟩
  change (f.news w.loads ++ _).filter Event.isAbort = []
  rw [List.filter_append, f.aborts_news]
  exact hnext.aborts

def failureOn (host : WatchedHost η φ) : Except LoaderError ρ → List (η × LoaderError)
  | .error e => [(host.host, e)]
  | .ok _ => []

theorem abort_diagnoses (host : WatchedHost η φ) {e : LoaderError} {line : String}
    (h : e.diagnostic = some line) (s : σ) : (abort host e s).Diagnoses [(host.host, e)] := by
  rw [abort_watched host s h]
  exact ⟨congrArg (fun line => [(host.host, line)]) h.symm, rfl⟩

theorem Loader.construct_diagnoses (l : Loader (WatchedHost η φ) (WatchedFactory η φ) α)
    (id : String) (s : σ) :
    (l.construct id s).Diagnoses (failureOn l.host (l.construct id s).value) := by
  cases hp : l.config.allowedDomains.permits (Host.hostname l.host s).value with
  | false =>
    have habort := abort_diagnoses l.host (e := .domainRestricted (Host.hostname l.host s).value)
      rfl (Host.hostname l.host s).state
    rw [construct_of_restricted hp]
    exact ⟨habort.lines, habort.aborts⟩
  | true =>
    cases he : l.registry.get? id with
    | none =>
      have habort := abort_diagnoses l.host (e := .unknownCreation id) rfl
        (Host.hostname l.host s).state
      rw [construct_of_unknown hp he]
      exact ⟨habort.lines, habort.aborts⟩
    | some entry =>
      rw [construct_of_known hp he]
      exact ⟨rfl, rfl⟩

theorem Handle.init_diagnoses (h : Handle (WatchedHost η φ) (WatchedFactory η φ) α)
    (selector : String) (overrides : Option (Params α)) (w : World σ τ) :
    (h.init selector overrides w).Diagnoses
      (failureOn h.host (h.init selector overrides w).value) := by
  have hignored : (h.ignored overrides).filter Event.isAbort = [] := by
    simp [ignored, Event.isAbort]
  cases hm : (Host.hasMatch h.host selector w.hosts).value with
  | false =>
    have habort := abort_diagnoses h.host (e := .targetNotFound selector) rfl
      (Host.hasMatch h.host selector w.hosts).state
    rw [init_of_no_match overrides hm]
    exact ⟨habort.lines, habort.aborts⟩
  | true =>
    cases hs : (Host.supportsShadowDom h.host
        (Host.hasMatch h.host selector w.hosts).state).value with
    | true =>
      rw [init_of_native overrides hm hs]
      exact ⟨rfl, by simpa [Effect.aborts, failureOn] using hignored⟩
    | false =>
      have hready := Gate.silent_ready h.gate h.host h.polyfillUrl
        { w with hosts := (Host.supportsShadowDom h.host
          (Host.hasMatch h.host selector w.hosts).state).state }
      rw [init_of_polyfilled overrides hm hs]
      refine ⟨hready.lines, ?_⟩
      change (h.ignored overrides ++ _).filter Event.isAbort = []
      rw [List.filter_append, hignored]
      exact hready.aborts

namespace Scene

theorem silent_setHandle (name : String) (h : Handle (WatchedHost η φ) (WatchedFactory η φ) α) :
    (setHandle name h : Action (WatchedScene η σ τ φ α) (Request η φ ν α β) Unit).Silent :=
  silent_modify _

theorem silent_clone (handle name : String) :
    (clone handle name : Action (WatchedScene η σ τ φ α) (Request η φ ν α β) _).Silent := by
  refine .bind silent_get fun s => ?_
  cases s.handles.lookup handle with
  | none => exact silent_pure _
  | some h => exact .bind (silent_setHandle name h) fun _ => silent_pure _

theorem silent_ready (gate : GateId) (host : WatchedHost η φ) (url name : String) :
    (ready gate host url name : Action (WatchedScene η σ τ φ α) (Request η φ ν α β) Unit).Silent :=
  .bind (Gate.silent_ready gate host url).onPart fun _ => silent_modify _

theorem silent_poll (place : Nat) :
    (poll place : Action (WatchedScene η σ τ φ α) (Request η φ ν α β) _).Silent := by
  refine .bind silent_get fun s => ?_
  rcases s.futures[place]? with _ | ⟨name, f⟩
  · exact silent_pure _
  · refine .bind f.silent_poll.onPart fun polled => ?_
    dsimp only
    split
    · exact .bind (silent_modify _) fun _ => silent_pure _
    · exact silent_pure _

/-- The host on which a step can fail: that of the loader or of the handle it is about. -/
def hostOf? (s : WatchedScene η σ τ φ α) : WatchedStep η σ φ α → Option (WatchedHost η φ)
  | .construct loader _ _ => (s.loaders.lookup loader).map Loader.host
  | .init handle _ _ _ => (s.handles.lookup handle).map Handle.host
  | _ => none

def failureOf (s : WatchedScene η σ τ φ α) (x : WatchedStep η σ φ α) : List (η × LoaderError) :=
  match s.hostOf? x, (step x s).value with
  | some host, .failed e => [(host.host, e)]
  | _, _ => []

/-- The failures of a run, each with the host on which the call was made. -/
def failures : List (WatchedStep η σ φ α) → WatchedScene η σ τ φ α → List (η × LoaderError)
  | [], _ => []
  | x :: rest, s => s.failureOf x ++ failures rest (step x s).state

theorem step_construct_diagnoses (loader id name : String) (s : WatchedScene η σ τ φ α) :
    (step (.construct loader id name) s).Diagnoses (s.failureOf (.construct loader id name)) := by
  cases hl : s.loaders.lookup loader with
  | none =>
    have hfailure : s.failureOf (.construct loader id name) = [] := by
      simp [failureOf, hostOf?, hl]
    rw [hfailure, step_construct_of_absent id name hl]
    exact ⟨rfl, rfl⟩
  | some l =>
    have hc := l.construct_diagnoses id s.world.hosts
    cases hv : (l.construct id s.world.hosts).value with
    | error e =>
      have hfailure : s.failureOf (.construct loader id name) = [(l.host.host, e)] := by
        simp [failureOf, hostOf?, hl, step_construct_of_error name hl hv]
      rw [hv] at hc
      rw [hfailure, step_construct_of_error name hl hv]
      exact ⟨hc.lines, hc.aborts⟩
    | ok h =>
      have hfailure : s.failureOf (.construct loader id name) = [] := by
        simp [failureOf, hostOf?, hl, step_construct_of_ok name hl hv]
      rw [hv] at hc
      rw [hfailure, step_construct_of_ok name hl hv]
      exact ⟨hc.lines, hc.aborts⟩

theorem step_init_diagnoses (handle selector : String) (overrides : Option (Params α))
    (name : String) (s : WatchedScene η σ τ φ α) :
    (step (.init handle selector overrides name) s).Diagnoses
      (s.failureOf (.init handle selector overrides name)) := by
  cases hh : s.handles.lookup handle with
  | none =>
    have hfailure : s.failureOf (.init handle selector overrides name) = [] := by
      simp [failureOf, hostOf?, hh]
    rw [hfailure, step_init_of_absent selector overrides name hh]
    exact ⟨rfl, rfl⟩
  | some h =>
    have hi := h.init_diagnoses selector overrides s.world
    cases hv : (h.init selector overrides s.world).value with
    | error e =>
      have hfailure : s.failureOf (.init handle selector overrides name) = [(h.host.host, e)] := by
        simp [failureOf, hostOf?, hh, step_init_of_error name hh hv]
      rw [hv] at hi
      rw [hfailure, step_init_of_error name hh hv]
      exact ⟨hi.lines, hi.aborts⟩
    | ok p =>
      have hfailure : s.failureOf (.init handle selector overrides name) = [] := by
        simp [failureOf, hostOf?, hh, step_init_of_ok name hh hv]
      rw [hv] at hi
      rw [hfailure, step_init_of_ok name hh hv]
      exact ⟨hi.lines, hi.aborts⟩

theorem failureOf_eq_nil {s : WatchedScene η σ τ φ α} {x : WatchedStep η σ φ α}
    (h : s.hostOf? x = none) : s.failureOf x = [] := by
  simp [failureOf, h]

theorem step_diagnoses (x : WatchedStep η σ φ α) (s : WatchedScene η σ τ φ α) :
    (step x s).Diagnoses (s.failureOf x) := by
  cases x with
  | construct loader id name => exact step_construct_diagnoses loader id name s
  | init handle selector overrides name =>
    exact step_init_diagnoses handle selector overrides name s
  | clone handle name =>
    rw [failureOf_eq_nil rfl]
    exact Silent.bind (silent_clone handle name) (fun _ => silent_pure _) s
  | ready gate host url name =>
    rw [failureOf_eq_nil rfl]
    exact Silent.bind (silent_ready gate host url name) (fun _ => silent_pure _) s
  | poll place =>
    rw [failureOf_eq_nil rfl]
    exact Silent.bind (silent_poll place) (fun _ => silent_pure _) s
  | hosts change => exact ⟨rfl, rfl⟩
  | loader name registry config host gate => exact ⟨rfl, rfl⟩
  | dropLoader name => exact ⟨rfl, rfl⟩
  | isLoaded gate url => exact ⟨rfl, rfl⟩
  | settle load outcome => exact ⟨rfl, rfl⟩
  | drop place => exact ⟨rfl, rfl⟩

theorem run_diagnoses (steps : List (WatchedStep η σ φ α)) (s : WatchedScene η σ τ φ α) :
    (run steps s).Diagnoses (failures steps s) := by
  induction steps generalizing s with
  | nil => exact ⟨rfl, rfl⟩
  | cons x rest ih =>
    have hrest : (((step x s).value :: ·) <$> run rest : Action _ _ _) (step x s).state |>.Diagnoses
        (failures rest (step x s).state) := by
      rw [map_apply]
      exact ⟨(ih _).lines, (ih _).aborts⟩
    exact diagnoses_bind (step_diagnoses x s) hrest

/-- The failures that abort a step: the host is not allowed, or the creation is not registered,
or no element matches. -/
inductive Aborted (s : WatchedScene η σ τ φ α) : WatchedStep η σ φ α → η → LoaderError → Prop
  | restricted {loader : String} {l : Loader (WatchedHost η φ) (WatchedFactory η φ) α}
      (id name : String) : s.loaders.lookup loader = some l →
      l.config.allowedDomains.permits (Host.hostname l.host s.world.hosts).value = false →
      Aborted s (.construct loader id name) l.host.host
        (.domainRestricted (Host.hostname l.host s.world.hosts).value)
  | unknown {loader : String} {l : Loader (WatchedHost η φ) (WatchedFactory η φ) α} {id : String}
      (name : String) : s.loaders.lookup loader = some l →
      l.registry.get? id = none →
      Aborted s (.construct loader id name) l.host.host (.unknownCreation id)
  | unmatched {handle : String} {h : Handle (WatchedHost η φ) (WatchedFactory η φ) α}
      {selector : String} (overrides : Option (Params α)) (name : String) :
      s.handles.lookup handle = some h →
      (Host.hasMatch h.host selector s.world.hosts).value = false →
      Aborted s (.init handle selector overrides name) h.host.host (.targetNotFound selector)

variable {s : WatchedScene η σ τ φ α} {e : LoaderError}

theorem aborted_of_construct {loader id name : String}
    (h : (step (.construct loader id name) s).value = .failed e) :
    ∃ host, s.failureOf (.construct loader id name) = [(host, e)] ∧
      s.Aborted (.construct loader id name) host e := by
  cases hl : s.loaders.lookup loader with
  | none =>
    rw [step_construct_of_absent id name hl] at h
    exact nomatch h
  | some l =>
    refine ⟨l.host.host, by simp [failureOf, hostOf?, hl, h], ?_⟩
    cases hp : l.config.allowedDomains.permits (Host.hostname l.host s.world.hosts).value with
    | false =>
      have he : (l.construct id s.world.hosts).value =
          .error (.domainRestricted (Host.hostname l.host s.world.hosts).value) := by
        rw [Loader.construct_of_restricted hp]
      rw [step_construct_of_error name hl he] at h
      obtain rfl := Answer.failed.inj h
      exact .restricted id name hl hp
    | true =>
      cases hr : l.registry.get? id with
      | none =>
        have he := congrArg Effect.value (Loader.construct_of_unknown hp hr)
        rw [step_construct_of_error name hl he] at h
        obtain rfl := Answer.failed.inj h
        exact .unknown name hl hr
      | some entry =>
        have hh := congrArg Effect.value (Loader.construct_of_known hp hr)
        rw [step_construct_of_ok name hl hh] at h
        exact nomatch h

theorem aborted_of_init {handle selector name : String} {overrides : Option (Params α)}
    (h : (step (.init handle selector overrides name) s).value = .failed e) :
    ∃ host, s.failureOf (.init handle selector overrides name) = [(host, e)] ∧
      s.Aborted (.init handle selector overrides name) host e := by
  cases hh : s.handles.lookup handle with
  | none =>
    rw [step_init_of_absent selector overrides name hh] at h
    exact nomatch h
  | some found =>
    refine ⟨found.host.host, by simp [failureOf, hostOf?, hh, h], ?_⟩
    cases hm : (Host.hasMatch found.host selector s.world.hosts).value with
    | false =>
      have he := congrArg Effect.value (Handle.init_of_no_match (h := found) overrides hm)
      rw [step_init_of_error name hh he] at h
      obtain rfl := Answer.failed.inj h
      exact .unmatched overrides name hh hm
    | true =>
      have hv : ∃ p, (found.init selector overrides s.world).value = .ok p := by
        cases hs : (Host.supportsShadowDom found.host
            (Host.hasMatch found.host selector s.world.hosts).state).value with
        | true => exact ⟨_, congrArg Effect.value (Handle.init_of_native overrides hm hs)⟩
        | false => exact ⟨_, congrArg Effect.value (Handle.init_of_polyfilled overrides hm hs)⟩
      obtain ⟨p, hv⟩ := hv
      rw [step_init_of_ok name hh hv] at h
      exact nomatch h

/-- Only constructs and inits fail as a whole. What fails later fails at a poll. -/
theorem aborted_of_failed {x : WatchedStep η σ φ α} (h : (step x s).value = .failed e) :
    ∃ host, s.failureOf x = [(host, e)] ∧ s.Aborted x host e := by
  cases x with
  | construct loader id name => exact aborted_of_construct h
  | init handle selector overrides name => exact aborted_of_init h
  | clone handle name =>
    cases hh : s.handles.lookup handle <;> simp [step, clone, setHandle, hh] at h
  | poll place => cases hp : (poll place s).value <;> simp [step, hp] at h
  | _ => cases h

theorem failureOf_of_not_failed {x : WatchedStep η σ φ α}
    (h : ∀ e, (step x s).value ≠ .failed e) : s.failureOf x = [] := by
  unfold failureOf
  split
  next hv => exact absurd hv (h _)
  next => rfl

/-- Over any run, the lines that are written are the diagnostics of the constructs and inits that
have failed, in order and one for each, on the consoles of the hosts that these were called on.
The warnings of aborted calls are, in the same order, one for each of them with its message.
Whatever has not failed as a whole writes no line and gives no such warning: a construct or init
that succeeds, and every poll, be it that the load has failed or that no instances could be
made. -/
theorem lines_are_diagnostics (steps : List (WatchedStep η σ φ α)) (s : WatchedScene η σ τ φ α) :
    (run steps s).lines.map (fun l => (l.1, some l.2)) =
      (failures steps s).map (fun f => (f.1, f.2.diagnostic)) ∧
    ((run steps s).events.filter (·.message == "wooble loader aborted")).map
        (fun e => (e.level, e.fields)) =
      (failures steps s).map (fun f => (.warn, [("error", f.2.message)])) ∧
    ∀ before x rest, steps = before ++ x :: rest →
      let now := s.after before
      (∀ e, (step x now).value = .failed e →
        ∃ host, now.failureOf x = [(host, e)] ∧ now.Aborted x host e) ∧
      ((∀ e, (step x now).value ≠ .failed e) → now.failureOf x = [] ∧ (step x now).lines = [] ∧
        ∀ e ∈ (step x now).events, e.message ≠ "wooble loader aborted") := by
  have hrun := run_diagnoses steps s
  refine ⟨hrun.lines, ?_, ?_⟩
  · have hfilter : (run steps s).events.filter (·.message == "wooble loader aborted") =
        (run steps s).aborts := by
      simp only [Effect.aborts, ← Event.isAbort_eq]
    rw [hfilter, hrun.aborts, List.map_map]
    rfl
  · intro before x rest _ now
    refine ⟨fun e => aborted_of_failed, fun h => ?_⟩
    have hnone := failureOf_of_not_failed h
    have hx := step_diagnoses x now
    rw [hnone] at hx
    refine ⟨hnone, List.map_eq_nil_iff.mp hx.lines, fun e he => ?_⟩
    have habort := List.filter_eq_nil_iff.mp hx.aborts e he
    rw [Event.isAbort_eq] at habort
    simpa using habort

end Scene

end CreationLoader
