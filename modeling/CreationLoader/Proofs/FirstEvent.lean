import CreationLoader.Browser.Delivery
import CreationLoader.Proofs.Primitives
import CreationLoader.Proofs.Sources

/-!
# How script loads end

The future of a load gives what the script element fires first, however often it is polled and
whatever else is fired. Where no element can be appended, the load has failed before anybody waits
for it, and every init that waits for it is rejected at its first turn.
-/

namespace CreationLoader.Browser
open Script Session

namespace ScriptFuture

/-- The event of a turn that has a handler. -/
def Turn.event? : Turn → Option TagEvent
  | .fired name => TagEvent.named? name
  | .polled => none

/-- A future that gives an outcome, or waits if there is none. The sender lies in its cell for as
long as nothing has been sent. -/
inductive Gives (url : String) : Option Outcome → ScriptFuture → Prop
  | waiting (first : Option Outcome) : Gives url first (.waiting url ⟨first.isNone, first⟩)
  | ready (outcome : Outcome) : Gives url (some outcome) (.ready outcome)

variable {url : String} {first : Option Outcome} {f : ScriptFuture}

theorem settle_eq (first : Option Outcome) (outcome : Outcome) :
    Channel.settle outcome ⟨first.isNone, first⟩ =
      ⟨(first.or (some outcome)).isNone, first.or (some outcome)⟩ := by
  cases first <;> rfl

/-- Only the first event decides. -/
theorem Gives.fire (h : Gives url first f) (name : String) :
    Gives url (first.or ((TagEvent.named? name).map (TagEvent.outcome url))) (f.fire name) := by
  cases h with
  | ready outcome => exact .ready outcome
  | waiting first =>
    rw [TagEvent.map_outcome_named?, ScriptFuture.fire]
    split_ifs
    · rw [settle_eq]
      exact .waiting _
    · rw [settle_eq]
      exact .waiting _
    · rw [Option.or_none]
      exact .waiting first

/-- A poll changes nothing about what a future gives. In particular, a channel is never found
without a sender and without a message. -/
theorem Gives.poll (h : Gives url first f) :
    (f.poll).value = first ∧ Gives url first (f.poll).state := by
  cases h with
  | ready outcome => exact ⟨rfl, .ready outcome⟩
  | waiting first =>
    cases first with
    | none => exact ⟨rfl, .waiting none⟩
    | some outcome => exact ⟨rfl, .ready outcome⟩

theorem Gives.after (h : Gives url first f) (turns : List Turn) :
    Gives url (first.or ((turns.filterMap Turn.event?).head?.map (TagEvent.outcome url)))
      (f.after turns) := by
  induction turns generalizing first f with
  | nil => simpa [ScriptFuture.after] using h
  | cons turn rest ih =>
    cases turn with
    | polled => exact ih h.poll.2
    | fired name =>
      have hrest := ih (h.fire name)
      cases hevent : TagEvent.named? name <;>
        simpa [ScriptFuture.after, Turn.event?, hevent, Option.or_assoc] using hrest

/-- The future of a load that the host has begun gives the outcome of the first event. -/
theorem ofLoad_after_poll {τ : Type} (url : String) (source : τ) (turns : List Turn) :
    (((ofLoad url ({ source } : ScriptLoad τ)).after turns).poll).value =
      (turns.filterMap Turn.event?).head?.map (TagEvent.outcome url) := by
  have hbegun : Gives url none (ofLoad url ({ source } : ScriptLoad τ)) := .waiting none
  rw [((hbegun.after turns).poll).1, Option.none_or]

theorem failedLoad_after_poll (url reason : String) (turns : List Turn) :
    (((ofLoad url (failedLoad reason)).after turns).poll).value = some (.failed reason) := by
  have hbegun : Gives url (some (.failed reason)) (ofLoad url (failedLoad reason)) := .ready _
  rw [((hbegun.after turns).poll).1, Option.some_or]

end ScriptFuture

theorem outcome_ne_abandoned (url : String) (event : TagEvent) :
    event.outcome url ≠ .failed "script load abandoned" := by
  cases event with
  | load => exact nofun
  | error =>
    intro h
    have htext := congrArg (fun text => (String.toList text).reverse.take 2) (Outcome.failed.inj h)
    simp [String.toList_append] at htext

namespace Session

/-- The events that one script element has fired, in order. -/
def firedBy (history : List (Nat × TagEvent)) (i : Nat) : List TagEvent :=
  history.filterMap fun e => if e.1 = i then some e.2 else none

theorem head?_firedBy (history : List (Nat × TagEvent)) (i : Nat) :
    (firedBy history i).head? = history.lookup i := by
  induction history with
  | nil => rfl
  | cons e rest ih =>
    obtain ⟨j, event⟩ := e
    by_cases hj : j = i
    · simp [firedBy, hj]
    · have hne : (i == j) = false := beq_eq_false_iff_ne.mpr fun h => hj h.symm
      rw [List.lookup_cons, hne, ← ih]
      simp [firedBy, hj]

theorem ready_grows (gate : GateId) (d : Document) (url : String) (w : World Page (Option Nat)) :
    w.Grows (Gate.ready gate d url w).state := by
  cases hdue : w.isDue gate url with
  | false =>
    obtain ⟨id, l, -, -, hready⟩ := Gate.ready_of_not_isDue d hdue
    rw [hready]
    exact .of_eq rfl
  | true =>
    rw [Gate.ready_of_isDue d hdue, Gate.start_apply]
    exact .append rfl

theorem step_grows (x : Step) (s : Session) : s.world.Grows (step x s).state.world := by
  have hchange := step_change x s
  have hkeeps {v : Session} (h : s.Kept v) : s.world.Grows v.world := by
    obtain ⟨page, names, -, rfl⟩ := h
    exact .of_eq rfl
  generalize hv : (step x s).state = v at hchange
  cases hchange with
  | kept _ hkept => exact hkeeps hkept
  | loader name _ hkept =>
    have hgrows := hkeeps hkept
    exact hgrows
  | handle name _ hkept =>
    have hgrows := hkeeps hkept
    exact hgrows
  | @bound _ v _ selector _ h overrides _ _ hkept =>
    refine (hkeeps hkept).trans ?_
    rcases Browser.init_cases h selector overrides v.world with ⟨-, hw⟩ | ⟨-, hw⟩ | ⟨-, hw⟩
    · exact .of_eq (by rw [hw])
    · exact .of_eq (by rw [hw])
    · rw [hw]
      exact ready_grows h.gate h.host h.polyfillUrl v.world
  | load url name =>
    rcases askHost_loadScript_state url name s with hstate | ⟨d, hstate⟩
    · exact .of_eq (by rw [hstate])
    · exact .append (by rw [hstate])
  | ran =>
    obtain ⟨world, promises, hstate, -, htold⟩ := run_frame s
    rw [hstate]
    exact htold.grows
  | fired script name =>
    rcases fire_frame script name s with hstate | ⟨id, outcome, hstate⟩
    · exact .of_eq (by rw [hstate])
    · rw [hstate]
      exact .modify rfl (Load.grows_settle outcome)

theorem after_grows (steps : List Step) (s : Session) : s.world.Grows (s.after steps).world := by
  induction steps generalizing s with
  | nil => exact .of_eq rfl
  | cons x rest ih => exact (step_grows x s).trans (ih (step x s).state)

section
variable {s : Session} {id : LoadId} {l : Load (Option Nat)} {reason : String}

theorem run_rejects {place : Nat} {q : Promise} {pending : Pending Document Class Value}
    (hl : s.world.loads[id]? = some l) (hfailed : l.outcome? = some (.failed reason))
    (hq : s.promises[place]? = some q) (hjob : q.job = .binding pending)
    (hload : pending.load = some id) (hopen : q.settled = none) :
    (run s).state.settled? place = some
      (.failed (LoaderError.polyfillFailed pending.handle.polyfillUrl reason).message) := by
  obtain ⟨q', hq', -, hresult⟩ := run_settles hq hjob hopen
  refine (settled?_of_promise hq').trans ((hresult _).mpr (.unloaded ?_))
  obtain ⟨world, hstate, -, htold⟩ := runJobs_frame (s.promises.take place) s
  obtain ⟨m, hm, hgrows⟩ := htold.grows id l hl
  rw [turn, hstate, hload]
  simp only [ended?, Option.elim_some, hm, Option.bind_some]
  exact hgrows.outcome _ hfailed

/-- An init whose load is refused leaves the page alone and gives a promise, which waits for a load
that has failed. -/
theorem init_of_refuses {realm : Realm Value} {h : Handle Document Class Value}
    {selector : Value} {target : String} (hselector : realm.kind selector = .string target)
    (hmatch : s.world.hosts.matching target ≠ [])
    (hsupport : s.world.hosts.supportsShadowDom = false)
    (hdue : s.world.isDue h.gate h.polyfillUrl = true) (hrefuses : s.world.hosts.Refuses reason)
    {given : Value} {overrides : Option (Params Value)}
    (hgiven : paramsOf realm given = .ok overrides) (name : String) :
    let began := initHandle realm h selector given name s
    let id := s.world.loads.length
    began.value = .promise ∧ began.state.world.hosts = s.world.hosts ∧
      (∃ l, began.state.world.loads[id]? = some l ∧ l.outcome? = some (.failed reason)) ∧
      began.state.world.current? h.gate h.polyfillUrl = some id ∧
      began.state.promises = s.promises ++
        [{ name, job := .binding (h.pending target overrides (some id)) }] := by
  intro began id
  have hm : (Host.hasMatch h.host target s.world.hosts).value = true := by
    rw [hasMatch_apply]
    simpa [Page.matching] using hmatch
  have hs : (Host.supportsShadowDom h.host
      (Host.hasMatch h.host target s.world.hosts).state).value = false := by
    rw [hasMatch_apply, supportsShadowDom_apply, hsupport]
  have hinit := Handle.init_of_polyfilled overrides hm hs
  obtain ⟨hvalue, hstate⟩ := loadScript_of_refuses hrefuses h.host h.polyfillUrl
  simp only [hasMatch_apply, supportsShadowDom_apply, Gate.ready_of_isDue h.host hdue,
    Gate.start_apply, hvalue, hstate] at hinit
  obtain ⟨hpromise, hbegan⟩ := initHandle_of_ok hselector hgiven name (congrArg Effect.value hinit)
  refine ⟨hpromise, ?_, ⟨Gate.begun h.gate h.polyfillUrl (failedLoad reason), ?_, rfl⟩, ?_, ?_⟩
  · rw [hbegan, hinit]
  · rw [hbegan, hinit]
    exact List.getElem?_concat_length
  · rw [hbegan]
    exact current?_of_init (congrArg Effect.value hinit) rfl
  · rw [hbegan]

end

/-- The future of a load that a host begins gives the outcome of the first load or error event that
the script element fires, and nothing before that: whatever is fired later makes no difference, nor
does when it is polled, and the load is never given up. What somebody gets who waits for a load of a
session is what the future gives, after the events that the element has fired in the session.

Where a page refuses to create or to append the element, nothing is appended, and the future gives
the reason from the start. An init whose load is refused gives a promise, and the gate keeps the
load for others to join. Whatever is done then, every promise that waits for the load is rejected
with the reason when the job queue is run for the first time. -/
theorem load_ends_by_first_event_or_refusal :
    (∀ (p : Page) (d : Document) (url : String),
      let begun := Host.loadScript d url p
      let future := ScriptFuture.ofLoad url begun.value
      ((∀ reason, ¬ p.Refuses reason) →
        begun.state = { p with scripts := p.scripts ++ [url] } ∧ ∀ turns,
          let polled := (future.after turns).poll
          polled.value =
            (turns.filterMap ScriptFuture.Turn.event?).head?.map (TagEvent.outcome url) ∧
          polled.value ≠ some (.failed "script load abandoned")) ∧
      (∀ reason, p.Refuses reason → begun.state = p ∧
        ∀ turns, ((future.after turns).poll).value = some (.failed reason))) ∧
    (∀ (page : Page) (steps : List Step) (id : LoadId) (l : Load (Option Nat)) (i : Nat),
      let s := (startOn page).after steps
      s.world.loads[id]? = some l → l.source = some i →
      s.world.hosts.scripts[i]? = some l.url ∧ ∀ turns,
        turns.filterMap ScriptFuture.Turn.event? = firedBy ((startOn page).fired steps) i →
        (Gate.await (κ := Call) id s.world).value =
          (((ScriptFuture.ofLoad l.url { source := some i }).after turns).poll).value) ∧
    ∀ (realm : Realm Value) (h : Handle Document Class Value) (selector given : Value)
      (target name reason : String) (overrides : Option (Params Value)) (s : Session),
      realm.kind selector = .string target → paramsOf realm given = .ok overrides →
      s.world.hosts.matching target ≠ [] → s.world.hosts.supportsShadowDom = false →
      s.world.isDue h.gate h.polyfillUrl = true → s.world.hosts.Refuses reason →
      let began := initHandle realm h selector given name s
      let id := s.world.loads.length
      began.value = .promise ∧ began.state.world.hosts = s.world.hosts ∧
      began.state.world.current? h.gate h.polyfillUrl = some id ∧
      began.state.promises = s.promises ++
        [{ name, job := .binding (h.pending target overrides (some id)) }] ∧
      ∀ (steps : List Step) (place : Nat) (q : Promise) (pending : Pending Document Class Value),
        (began.state.after steps).promises[place]? = some q → q.job = .binding pending →
        pending.load = some id → q.settled = none →
        (run (began.state.after steps)).state.settled? place = some
          (.failed (LoaderError.polyfillFailed pending.handle.polyfillUrl reason).message) := by
  refine ⟨?_, ?_, ?_⟩
  · intro p d url begun future
    refine ⟨fun haccepts => ?_, fun reason hrefuses => ?_⟩
    · obtain ⟨hvalue, hstate⟩ := loadScript_of_not_refuses haccepts d url
      refine ⟨hstate, fun turns => ?_⟩
      intro polled
      have hpolled : polled.value =
          (turns.filterMap ScriptFuture.Turn.event?).head?.map (TagEvent.outcome url) := by
        simp only [polled, future, begun, hvalue]
        exact ScriptFuture.ofLoad_after_poll url (some p.scripts.length) turns
      refine ⟨hpolled, fun habandoned => ?_⟩
      obtain ⟨event, -, hevent⟩ := Option.map_eq_some_iff.mp (hpolled.symm.trans habandoned)
      exact outcome_ne_abandoned url event hevent
    · obtain ⟨hvalue, hstate⟩ := loadScript_of_refuses hrefuses d url
      refine ⟨hstate, fun turns => ?_⟩
      simp only [future, begun, hvalue]
      exact ScriptFuture.failedLoad_after_poll url reason turns
  · intro page steps id l i s hl hsource
    have hsourced := sourced_after page steps
    have hmem := List.mem_of_getElem? hl
    refine ⟨hsourced.urls l hmem i hsource, fun turns hturns => ?_⟩
    rw [Gate.await_apply, ScriptFuture.ofLoad_after_poll, hturns, head?_firedBy, hl,
      Option.bind_some, hsourced.outcomes l hmem i hsource]
  · intro realm h selector given target name reason overrides s hselector hgiven hmatch hsupport
      hdue hrefuses began id
    obtain ⟨hpromise, hpage, ⟨l, hl, hfailed⟩, hcurrent, hpromises⟩ :=
      init_of_refuses hselector hmatch hsupport hdue hrefuses hgiven name
    refine ⟨hpromise, hpage, hcurrent, hpromises,
      fun steps place q pending hq hjob hload hopen => ?_⟩
    obtain ⟨m, hm, hgrows⟩ := after_grows steps began.state id l hl
    exact run_rejects hm (hgrows.outcome _ hfailed) hq hjob hload hopen

/-- The element of one load fires an error event and then a load event. Appending the element of
another is refused, and the init that has asked for it is rejected. -/
theorem load_fails_by_error_or_refusal :
    let steps : List Step :=
      [.host (.loadScript "url" "promise"), .fire 0 "onerror", .run, .fire 0 "onload"]
    let h : Handle Document Class Value := ⟨"id", ⟨⟨.function "Made"⟩, ∅⟩, {}, pageGate, "url"⟩
    let page : Page := { nodes := [("div", [7])], appendThrows := some (.string "denied") }
    let began := initHandle (Heap.realm []) h (.string "div") .null "promise"
      { world := { hosts := page } }
    (Gate.await (κ := Call) 0 ((startOn {}).after steps).world).value =
        some (.failed "url did not load") ∧
      began.state.world.hosts.scripts = [] ∧ (run began.state).state.settled? 0 =
        some (.failed (LoaderError.polyfillFailed "url" "denied").message) := by
  intro steps h page began
  obtain ⟨-, hended, hrefused⟩ := load_ends_by_first_event_or_refusal
  obtain ⟨-, hawait⟩ := hended {} steps 0
    ⟨none, "url", some 0, .delivered (.failed "url did not load")⟩ 0 rfl rfl
  have hrefuses : page.Refuses (page.heap.reason (.string "denied")) := .appending rfl rfl rfl rfl
  obtain ⟨-, hpage, -, hpromises, hrejects⟩ := hrefused (Heap.realm []) h (.string "div") .null
    "div" "promise" "denied" none { world := { hosts := page } } rfl rfl (by decide) rfl (by decide)
    hrefuses
  have hplace : began.state.promises[0]? =
      some { name := "promise", job := .binding (h.pending "div" none (some 0)) } := by
    rw [hpromises]
    rfl
  have hrejected := hrejects [] 0 _ (h.pending "div" none (some 0)) hplace rfl rfl rfl
  refine ⟨?_, congrArg Page.scripts hpage, hrejected⟩
  exact hawait [.polled, .fired "onerror", .polled, .fired "onload"] (by decide +kernel)

end Session

end CreationLoader.Browser
