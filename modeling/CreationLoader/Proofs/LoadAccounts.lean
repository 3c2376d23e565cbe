import CreationLoader.Proofs.LoadReports

/-!
# The account that events give of loads

Every load of a gate is reported when it begins, and its failure when somebody is told. So the loads
that a gate has begun for a URL can be counted from what is reported, and so can the scripts that
were asked for.
-/

namespace CreationLoader
open Simulation (HostRef Hosts)
variable {η σ κ ν τ φ α β ι : Type}

namespace Event
variable {url : String}

/-- What is reported of a load, the reason being given if a failure has been told. -/
def ofLoad (url : String) (failure : Option String) : List Event :=
  loadStarted url :: (failure.map (loadFailed url)).toList

/-- What is reported of loads for one URL, one after the other. -/
def ofLoads (url : String) : List (Option String) → List Event
  | [] => []
  | first :: rest =>
    ofLoad url first ++ rest.flatMap fun failure => loadRetried url :: ofLoad url failure

theorem ofLoads_concat (history : List (Option String)) (last : Option String) :
    ofLoads url (history ++ [last]) =
      ofLoads url history ++
        ((if history = [] then [] else [loadRetried url]) ++ ofLoad url last) := by
  cases history <;> simp [ofLoads]

theorem ofLoads_told (before : List (Option String)) (reason : String) :
    ofLoads url (before ++ [some reason]) =
      ofLoads url (before ++ [none]) ++ [loadFailed url reason] := by
  simp [ofLoads_concat, ofLoad]

theorem retried_or_started {current? : Option LoadId} {e : Event}
    (h : e ∈ current?.elim [] (fun _ => [loadRetried url]) ++ [loadStarted url]) :
    e = loadRetried url ∨ e = loadStarted url := by
  cases current? with
  | none => exact .inr (List.mem_singleton.mp h)
  | some id => simpa using h

theorem filter_message {message : String} (h : ∀ e : Event, e.message = message → e.loadUrl?.isSome)
    (events : List Event) :
    (events.filter fun e => e.loadUrl?.isSome).filter (·.message == message) =
      events.filter (·.message == message) := by
  rw [List.filter_filter]
  refine List.filter_congr fun e _ => ?_
  by_cases he : e.message = message
  · simp [he, h e he]
  · simp [he]

theorem filter_started_ofLoads (history : List (Option String)) :
    (ofLoads url history).filter (·.message == "loading shadow DOM polyfill") =
      List.replicate history.length (loadStarted url) := by
  induction history using List.reverseRecOn with
  | nil => rfl
  | append_singleton before last ih =>
    rw [ofLoads_concat, List.filter_append, ih, List.length_append, List.length_singleton,
      List.replicate_succ', List.append_cancel_left_eq]
    cases before <;> cases last <;> rfl

theorem filter_retried_ofLoads (history : List (Option String)) :
    (ofLoads url history).filter (·.message == "previous polyfill load failed, retrying") =
      List.replicate (history.length - 1) (loadRetried url) := by
  induction history using List.reverseRecOn with
  | nil => rfl
  | append_singleton before last ih =>
    rw [ofLoads_concat, List.filter_append, ih]
    cases before with
    | nil => cases last <;> rfl
    | cons first rest =>
      have hlength : (first :: rest ++ [last]).length - 1 = (first :: rest).length - 1 + 1 := by
        simp
      rw [hlength, List.replicate_succ', List.append_cancel_left_eq]
      cases last <;> rfl

theorem filter_failed_ofLoads (history : List (Option String)) :
    (ofLoads url history).filter (·.message == "polyfill failed to load") =
      (history.filterMap id).map (loadFailed url) := by
  induction history using List.reverseRecOn with
  | nil => rfl
  | append_singleton before last ih =>
    rw [ofLoads_concat, List.filter_append, ih, List.filterMap_append, List.map_append,
      List.append_cancel_left_eq]
    cases before <;> cases last <;> rfl

end Event

/-- If of every load but the last it has been told that it has failed, there is at most one load
more than there are failures. -/
theorem Load.length_le_told {loads : List (Load τ)}
    (h : loads.Pairwise fun l _ => l.told?.isSome = true) :
    loads.length - 1 ≤ (loads.filterMap told?).length := by
  induction loads with
  | nil => exact Nat.le_refl _
  | cons l rest ih =>
    obtain ⟨hl, hrest⟩ := List.pairwise_cons.mp h
    have hle := ih hrest
    cases rest with
    | nil => exact Nat.zero_le _
    | cons m rest =>
      obtain ⟨reason, htold⟩ := Option.isSome_iff_exists.mp (hl m List.mem_cons_self)
      rw [List.filterMap_cons_some htold]
      simp only [List.length_cons] at hle ⊢
      omega

theorem World.Succession.pairwise {w : World σ τ} {gate : GateId} {url : String}
    (h : w.Succession gate url) :
    (w.loads.filter (Load.isFor gate url)).Pairwise fun l _ => l.told?.isSome = true := by
  rw [List.pairwise_filter, List.pairwise_iff_getElem]
  intro i j hi hj hij hfor hfor'
  rw [Load.isSome_told?]
  exact h i j _ _ hij (List.getElem?_eq_getElem hi) (List.getElem?_eq_getElem hj) hfor hfor'

namespace Scene

/-- The gate and the URL of the loads that a step deals with: those that it asks for, or that of the
load which what it polls waits for. -/
def deals (s : Scene η σ τ φ α) : Step η σ φ α → Option (GateId × String)
  | .poll place =>
    (s.futures[place]?).bind fun e => e.2.load?.bind fun id =>
      (s.world.loads[id]?).bind fun l => l.gate.map fun gate => (gate, l.url)
  | x => s.asks x

theorem deals_of_asks {s : Scene η σ τ φ α} {x : Step η σ φ α} {gate : GateId} {url : String}
    (hx : s.asks x = some (gate, url)) : s.deals x = some (gate, url) := by
  cases x with
  | poll place => exact nomatch hx
  | _ => exact hx

theorem deals_poll {s : Scene η σ τ φ α} {place : Nat} {name : String} {f : Future η φ α}
    {id : LoadId} {l : Load τ} {gate : GateId} (hf : s.futures[place]? = some (name, f))
    (hid : f.load? = some id) (hl : s.world.loads[id]? = some l) (hgate : l.gate = some gate) :
    s.deals (.poll place) = some (gate, l.url) := by
  simp [deals, hf, hid, hl, hgate]

variable [Host η σ κ ν τ] [Factory φ σ κ ν α β ι]

/-- The effects of those steps of a run that deal with the loads of a gate for a URL. -/
def dealings (gate : GateId) (url : String) : List (WatchedStep η σ φ α) →
    WatchedScene η σ τ φ α → List (Effect (WatchedScene η σ τ φ α) (Request η φ ν α β)
      (Answer (WatchedHost η φ) (WatchedFactory η φ) α ι))
  | [], _ => []
  | x :: rest, s =>
    (if s.deals x = some (gate, url) then [step x s] else []) ++
      dealings gate url rest (step x s).state

section
variable {s : WatchedScene η σ τ φ α} {gate : GateId} {url : String}

/-- One step: what it reports and asks for goes to the end of the account. -/
theorem step_account (hs : s.Reachable) (x : WatchedStep η σ φ α) (gate : GateId) (url : String) :
    let reported := if s.deals x = some (gate, url) then [step x s] else []
    let before := Load.history gate url s.world.loads
    let after := Load.history gate url (step x s).state.world.loads
    Event.ofLoads url after = Event.ofLoads url before ++ reported.flatMap Effect.loadEvents ∧
      List.replicate after.length url =
        List.replicate before.length url ++ reported.flatMap Effect.scripts := by
  intro reported before after
  cases step_report x s with
  | quiet hevents hscripts hhistory =>
    have hsame : after = before := hhistory gate url
    simp only [reported, hsame]
    split <;> simp [hevents, hscripts]
  | @begun gate' url' script hasks hdue hloads hevents hscripts =>
    have hdeals := deals_of_asks hasks
    have hafter : after = before ++ if (gate', url') = (gate, url) then [none] else [] := by
      rw [← Gate.history_begun, ← hloads]
    by_cases h : (gate', url') = (gate, url)
    · obtain ⟨rfl, rfl⟩ := Prod.mk.inj h
      rw [if_pos h] at hafter
      have hretried : (s.world.current? gate' url').elim [] (fun _ => [Event.loadRetried url']) =
          if before = [] then [] else [.loadRetried url'] := by
        simp only [before, Load.history_eq_nil_iff, ← World.current?_eq_none_iff]
        cases s.world.current? gate' url' <;> rfl
      simp only [reported, hafter, if_pos hdeals, List.flatMap_singleton, hevents, hscripts,
        hretried, Event.ofLoads_concat, List.length_append, List.length_singleton,
        List.replicate_succ']
      exact ⟨rfl, trivial⟩
    · have hnot : ¬ s.deals x = some (gate, url) := fun hd => h (Option.some.inj (hdeals ▸ hd))
      rw [if_neg h, List.append_nil] at hafter
      simp [reported, hafter, hnot]
  | @told place name f id l gate' reason hx hf hid hl hgate hp hloads hevents hcalls =>
    subst hx
    have hdeals := deals_poll hf hid hl hgate
    by_cases h : (gate', l.url) = (gate, url)
    · obtain ⟨rfl, rfl⟩ := Prod.mk.inj h
      have hfor : l.isFor gate' l.url = true := Load.isFor_iff.mpr ⟨hgate, rfl⟩
      have hnot : l.progress.isToldFailure = false := by rw [hp]; rfl
      obtain ⟨earlier, hbefore, hafter⟩ :=
        Load.history_deliver_of_last hl hfor hp fun j m hm hmfor =>
          (hs.succession gate' l.url).le hl hm hfor hmfor hnot
      rw [← hloads] at hafter
      simp only [reported, before, after, hbefore, hafter, if_pos hdeals, List.flatMap_singleton,
        Effect.loadEvents, Effect.scripts, hevents, hcalls, Event.ofLoads_told, List.length_append]
      exact ⟨rfl, by simp⟩
    · have hnot : ¬ s.deals (.poll place) = some (gate, url) := fun hd =>
        h (Option.some.inj (hdeals ▸ hd))
      have hfor : l.isFor gate url = false := by
        rw [Bool.eq_false_iff]
        intro hfor
        obtain ⟨hg, hu⟩ := Load.isFor_iff.mp hfor
        exact h (Prod.ext (Option.some.inj (hgate.symm.trans hg)) hu)
      have hsame : after = before := by
        simp only [after, before, hloads, Load.history_deliver_of_ne hl hfor]
      simp [reported, hsame, hnot]

/-- A run: its account is that of the loads on record. -/
theorem run_account (hs : s.Reachable) (steps : List (WatchedStep η σ φ α)) (gate : GateId)
    (url : String) :
    let reported := s.dealings gate url steps
    let before := Load.history gate url s.world.loads
    let after := Load.history gate url (s.after steps).world.loads
    Event.ofLoads url after = Event.ofLoads url before ++ reported.flatMap Effect.loadEvents ∧
      List.replicate after.length url =
        List.replicate before.length url ++ reported.flatMap Effect.scripts := by
  induction steps generalizing s with
  | nil => simp [dealings]
  | cons x rest ih =>
    obtain ⟨hevents, hscripts⟩ := step_account hs x gate url
    obtain ⟨hevents', hscripts'⟩ := ih (hs.step x)
    simp only [dealings, after_cons, List.flatMap_append]
    rw [hevents', hevents, hscripts', hscripts, List.append_assoc, List.append_assoc]
    exact ⟨rfl, rfl⟩

end

/-- The step polls something that waits for a load. -/
def Polls (s : Scene η σ τ φ α) (x : Step η σ φ α) (id : LoadId) : Prop :=
  ∃ place name f, x = .poll place ∧ s.futures[place]? = some (name, f) ∧ f.load? = some id

theorem Polls.unique {s : Scene η σ τ φ α} {x : Step η σ φ α} {id id' : LoadId}
    (h : s.Polls x id) (h' : s.Polls x id') : id = id' := by
  obtain ⟨place, name, f, rfl, hf, hid⟩ := h
  obtain ⟨place', name', f', hplace, hf', hid'⟩ := h'
  obtain rfl := Step.poll.inj hplace
  obtain ⟨-, rfl⟩ := Prod.mk.inj (Option.some.inj (hf.symm.trans hf'))
  exact Option.some.inj (hid.symm.trans hid')

/-- The first poll that finds a load of a gate to have failed reports this, and nothing else. -/
theorem step_poll_of_settled {s : Scene η σ τ φ α} {place : Nat} {name : String}
    {f : Future η φ α} {id : LoadId} {l : Load τ} {gate : GateId} {reason : String}
    (hf : s.futures[place]? = some (name, f)) (hid : f.load? = some id)
    (hl : s.world.loads[id]? = some l) (hgate : l.gate = some gate)
    (hp : l.progress = .settled (.failed reason)) :
    (step (.poll place) s).events = [.loadFailed l.url reason] := by
  have ho := Load.outcome?_of_settled hp
  rw [step_poll_of_future hf, Future.poll_of_failed hid (by rw [hl]; exact ho), hl]
  simp [Load.news, hgate, hp]

section
variable {hosts : σ} {before : List (WatchedStep η σ φ α)} {x : WatchedStep η σ φ α} {id : LoadId}
  {url reason : String}

/-- A failure is told by a poll of what waits for the load, if no poll has told it before. -/
theorem warns_iff :
    let start : WatchedScene η σ τ φ α := initial hosts
    let now := start.after before
    .loadFailed url reason ∈ (step x now).events ↔ ∃ id l gate, now.Polls x id ∧
      now.world.loads[id]? = some l ∧ l.isFor gate url = true ∧
      l.outcome? = some (.failed reason) ∧ ¬ start.Told before id url reason := by
  intro start now
  constructor
  · intro hmem
    have hload : .loadFailed url reason ∈ (step x now).loadEvents :=
      List.mem_filter.mpr ⟨hmem, rfl⟩
    cases step_report x now with
    | quiet hevents =>
      rw [hevents] at hload
      exact nomatch hload
    | @begun gate' url' _ _ _ _ hevents =>
      rw [hevents] at hload
      obtain h | h := Event.retried_or_started hload
      · exact nomatch h
      · exact nomatch h
    | @told place name f id l gate reason' hx hf hid hl hgate hp _ hevents =>
      rw [hevents, List.mem_singleton] at hmem
      obtain ⟨rfl, rfl⟩ := Event.loadFailed.inj hmem
      have ho := Load.outcome?_of_settled hp
      refine ⟨id, l, gate, ⟨place, name, f, hx, hf, hid⟩, hl, Load.isFor_iff.mpr ⟨hgate, rfl⟩, ho,
        ?_⟩
      rw [told_iff hl rfl ho, hp]
      exact nofun
  · rintro ⟨id, l, gate, ⟨place, name, f, rfl, hf, hid⟩, hl, hfor, ho, hnot⟩
    obtain ⟨hgate, rfl⟩ := Load.isFor_iff.mp hfor
    rw [told_iff hl rfl ho, Progress.isToldFailure_iff] at hnot
    have hp : l.progress = .settled (.failed reason) := by
      rcases hp : l.progress with _ | o | o
      · exact nomatch (Load.isOpen_iff.mp (by simp [Load.isOpen, hp])).symm.trans ho
      · rw [Option.some.inj ((Load.outcome?_of_settled hp).symm.trans ho)]
      · rw [Option.some.inj ((Load.outcome?_of_delivered hp).symm.trans ho)] at hp
        exact absurd ⟨reason, hp⟩ hnot
    rw [step_poll_of_settled hf hid hl hgate hp]
    exact List.mem_singleton_self _

theorem told_of_warned (hpolls : ((initial hosts : WatchedScene η σ τ φ α).after before).Polls x id)
    (hmem : .loadFailed url reason ∈
      (step x ((initial hosts : WatchedScene η σ τ φ α).after before)).events)
    (rest : List (WatchedStep η σ φ α)) :
    (initial hosts : WatchedScene η σ τ φ α).Told (before ++ x :: rest) id url reason := by
  obtain ⟨id', l, gate, hpolls', hl, hfor, ho, -⟩ := warns_iff.mp hmem
  obtain rfl := hpolls.unique hpolls'
  obtain ⟨place, name, f, rfl, hf, hid⟩ := hpolls
  obtain ⟨m, hm, hgrows, hp⟩ := delivered_of_poll rest hf hid hl ho
  have htold := told_of_delivered hm hp
  rwa [hgrows.url, (Load.isFor_iff.mp hfor).2] at htold

theorem exists_unique_warning {steps : List (WatchedStep η σ φ α)} {l : Load τ} {gate : GateId}
    (hl : ((initial hosts : WatchedScene η σ τ φ α).after steps).world.loads[id]? = some l)
    (hfor : l.isFor gate url = true)
    (htold : (initial hosts : WatchedScene η σ τ φ α).Told steps id url reason) :
    let start : WatchedScene η σ τ φ α := initial hosts
    ∃! before, ∃ x rest, steps = before ++ x :: rest ∧ (start.after before).Polls x id ∧
      (step x (start.after before)).events = [.loadFailed url reason] := by
  intro start
  have honce (before middle : List (WatchedStep η σ φ α)) (x y : WatchedStep η σ φ α)
      (hx : (start.after before).Polls x id)
      (hxevents : (step x (start.after before)).events = [.loadFailed url reason])
      (hy : (start.after (before ++ x :: middle)).Polls y id)
      (hyevents : (step y (start.after (before ++ x :: middle))).events =
        [.loadFailed url reason]) : False := by
    have hfirst : .loadFailed url reason ∈ (step x (start.after before)).events := by
      rw [hxevents]
      exact List.mem_singleton_self _
    have hagain : .loadFailed url reason ∈
        (step y (start.after (before ++ x :: middle))).events := by
      rw [hyevents]
      exact List.mem_singleton_self _
    obtain ⟨id', -, -, hy', -, -, -, hnot⟩ := warns_iff.mp hagain
    obtain rfl := hy.unique hy'
    exact hnot (told_of_warned hx hfirst middle)
  have hp := delivered_of_told htold hl
  obtain ⟨before, place, rest, name, f, m, rfl, hf, hid, hm, hsettled⟩ :=
    delivered_at (by simp [initial]) hl hp
  have hgrows : m.Grows l := by
    rw [after_append] at hl
    obtain ⟨n, hn, hg⟩ := after_grows (.poll place :: rest) _ id m hm
    obtain rfl := Option.some.inj (hl.symm.trans hn)
    exact hg
  obtain ⟨hgate, hurl⟩ := Load.isFor_iff.mp (hgrows.isFor gate url ▸ hfor)
  have hevents := step_poll_of_settled hf hid hm hgate hsettled
  rw [hurl] at hevents
  refine ⟨before, ⟨_, rest, rfl, ⟨place, name, f, rfl, hf, hid⟩, hevents⟩, ?_⟩
  rintro other ⟨y, rest', hsplit, hy, hyevents⟩
  rcases List.append_eq_append_iff.mp hsplit with ⟨middle, rfl, hmiddle⟩ | ⟨middle, rfl, hmiddle⟩
  · cases middle with
    | nil => exact List.append_nil _
    | cons z middle =>
      obtain ⟨rfl, -⟩ := List.cons.inj hmiddle
      exact (honce before middle _ y ⟨place, name, f, rfl, hf, hid⟩ hevents hy hyevents).elim
  · cases middle with
    | nil => exact (List.append_nil _).symm
    | cons z middle =>
      obtain ⟨rfl, -⟩ := List.cons.inj hmiddle
      exact (honce other middle _ _ hy hyevents ⟨place, name, f, rfl, hf, hid⟩ hevents).elim

end

section
variable {s : WatchedScene η σ τ φ α} {x : WatchedStep η σ φ α} {gate : GateId} {url : String}

theorem deals_of_event {e : Event} (he : e ∈ (step x s).events) (hurl : e.loadUrl? = some url) :
    ∃ gate, s.deals x = some (gate, url) := by
  have hmem : e ∈ (step x s).loadEvents := List.mem_filter.mpr ⟨he, by simp [hurl]⟩
  cases step_report x s with
  | quiet hevents =>
    rw [hevents] at hmem
    exact nomatch hmem
  | @begun gate url' _ hasks _ _ hevents =>
    have hfor : e.loadUrl? = some url' := by
      rw [hevents] at hmem
      obtain rfl | rfl := Event.retried_or_started hmem
      · rfl
      · rfl
    obtain rfl := Option.some.inj (hurl.symm.trans hfor)
    exact ⟨gate, deals_of_asks hasks⟩
  | @told place name f id l gate reason hx hf hid hl hgate _ _ hevents =>
    rw [hevents, List.mem_singleton] at he
    subst he hx
    obtain rfl : l.url = url := Option.some.inj hurl
    exact ⟨gate, deals_poll hf hid hl hgate⟩

theorem deals_of_script (hurl : url ∈ (step x s).scripts) :
    ∃ gate, s.deals x = some (gate, url) := by
  cases step_report x s with
  | quiet _ hscripts =>
    rw [hscripts] at hurl
    exact absurd hurl List.not_mem_nil
  | @begun gate url' _ hasks _ _ _ hscripts =>
    rw [hscripts, List.mem_singleton] at hurl
    exact ⟨gate, hurl ▸ deals_of_asks hasks⟩
  | told _ _ _ _ _ _ _ _ hcalls =>
    rw [Effect.scripts, hcalls] at hurl
    exact absurd hurl List.not_mem_nil

theorem asks_of_begins {id : LoadId} (h : s.Begins x id gate url) :
    s.asks x = some (gate, url) := by
  obtain ⟨-, -, host, hosts, hloads⟩ := h
  cases step_report x s with
  | quiet _ _ hhistory =>
    have hsame := hhistory gate url
    rw [hloads, Gate.history_begun, if_pos rfl] at hsame
    exact absurd hsame (by simp)
  | @begun gate' url' script hasks _ hloads' =>
    have hlast := List.singleton_inj.mp (List.append_cancel_left (hloads'.symm.trans hloads))
    have hfor := Gate.begun_isFor gate' url' script
    rw [hlast] at hfor
    obtain ⟨rfl, rfl⟩ := Gate.begun_isFor_iff.mp hfor
    exact hasks
  | told _ _ _ _ _ _ hloads' =>
    have hlength := congrArg List.length (hloads'.symm.trans hloads)
    simp at hlength

theorem asked_of_deals {hosts : σ} {steps : List (WatchedStep η σ φ α)}
    (h : ((initial hosts : WatchedScene η σ τ φ α).after steps).deals x = some (gate, url))
    (rest : List (WatchedStep η σ φ α)) :
    ∃ before y more, steps ++ x :: rest = before ++ y :: more ∧
      ((initial hosts : WatchedScene η σ τ φ α).after before).asks y = some (gate, url) := by
  cases x with
  | poll place =>
    simp only [deals, Option.bind_eq_some_iff, Option.map_eq_some_iff] at h
    obtain ⟨e, -, id, -, l, hl, g, hgate, heq⟩ := h
    obtain ⟨rfl, rfl⟩ := Prod.mk.inj heq
    obtain ⟨before, y, more, rfl, hbegins⟩ :=
      begun_at (Nat.zero_le id) hl (Load.isFor_iff.mpr ⟨hgate, rfl⟩)
    exact ⟨before, y, more ++ .poll place :: rest, by simp, asks_of_begins hbegins⟩
  | _ => exact ⟨steps, _, rest, rfl, h⟩

theorem step_of_url (x : WatchedStep η σ φ α) (hone : ∀ g, s.deals x = some (g, url) → g = gate) :
    let reported := if s.deals x = some (gate, url) then [step x s] else []
    (step x s).events.filter (·.loadUrl? == some url) = reported.flatMap Effect.loadEvents ∧
      (step x s).scripts.filter (· == url) = reported.flatMap Effect.scripts := by
  intro reported
  by_cases h : s.deals x = some (gate, url)
  · simp only [reported, if_pos h, List.flatMap_singleton]
    constructor
    · refine List.filter_congr fun e he => ?_
      cases hurl : e.loadUrl? with
      | none => rfl
      | some u =>
        obtain ⟨g, hg⟩ := deals_of_event he hurl
        obtain ⟨-, rfl⟩ := Prod.mk.inj (Option.some.inj (h.symm.trans hg))
        simp
    · refine List.filter_eq_self.mpr fun u hu => ?_
      obtain ⟨g, hg⟩ := deals_of_script hu
      obtain ⟨-, rfl⟩ := Prod.mk.inj (Option.some.inj (h.symm.trans hg))
      simp
  · have hnot (g : GateId) : s.deals x ≠ some (g, url) := fun hg => h (hone g hg ▸ hg)
    simp only [reported, if_neg h, List.flatMap_nil, List.filter_eq_nil_iff, beq_iff_eq]
    constructor
    · intro e he hurl
      obtain ⟨g, hg⟩ := deals_of_event he hurl
      exact hnot g hg
    · rintro u hu rfl
      obtain ⟨g, hg⟩ := deals_of_script hu
      exact hnot g hg

theorem run_cons_events (x : WatchedStep η σ φ α) (rest : List (WatchedStep η σ φ α))
    (s : WatchedScene η σ τ φ α) :
    (run (x :: rest) s).events = (step x s).events ++ (run rest (step x s).state).events := by
  simp [run]

theorem run_cons_scripts (x : WatchedStep η σ φ α) (rest : List (WatchedStep η σ φ α))
    (s : WatchedScene η σ τ φ α) :
    (run (x :: rest) s).scripts = (step x s).scripts ++ (run rest (step x s).state).scripts := by
  simp [run, Effect.scripts]

/-- If one gate alone is asked for a URL, all that a run reports of it is about this gate. -/
theorem run_of_url {hosts : σ} (steps : List (WatchedStep η σ φ α))
    (hone : ∀ before y rest, steps = before ++ y :: rest → ∀ g,
      ((initial hosts : WatchedScene η σ τ φ α).after before).asks y = some (g, url) → g = gate) :
    let start : WatchedScene η σ τ φ α := initial hosts
    let dealings := start.dealings gate url steps
    (run steps start).events.filter (·.loadUrl? == some url) =
        dealings.flatMap Effect.loadEvents ∧
      (run steps start).scripts.filter (· == url) = dealings.flatMap Effect.scripts := by
  intro start
  suffices h : ∀ (rest before : List (WatchedStep η σ φ α)), steps = before ++ rest →
      (run rest (start.after before)).events.filter (·.loadUrl? == some url) =
          ((start.after before).dealings gate url rest).flatMap Effect.loadEvents ∧
        (run rest (start.after before)).scripts.filter (· == url) =
          ((start.after before).dealings gate url rest).flatMap Effect.scripts from h steps [] rfl
  intro rest
  induction rest with
  | nil => exact fun _ _ => ⟨rfl, rfl⟩
  | cons x rest ih =>
    rintro before rfl
    obtain ⟨hevents, hscripts⟩ := step_of_url x fun g hg => by
      obtain ⟨earlier, y, more, hsplit, hasks⟩ := asked_of_deals hg rest
      exact hone earlier y more hsplit g hasks
    obtain ⟨hevents', hscripts'⟩ := ih (before ++ [x]) (by simp)
    rw [after_concat] at hevents' hscripts'
    rw [run_cons_events, run_cons_scripts, List.filter_append, List.filter_append, hevents,
      hscripts, hevents', hscripts', dealings, List.flatMap_append, List.flatMap_append]
    exact ⟨rfl, rfl⟩

end

/-- Whatever is done over some hosts and in whatever order, what is reported accounts for the loads
that a gate has begun for a URL. Hosts are asked for the script, and a beginning is reported, once
for each load; a repetition once for each load but the first; and a failure once for each load whose
failure has been told, with its reason. So there are as many failures as repetitions or one more. A
load whose failure has been told is reported by one step alone, which polls what waits for the load.
A failure is reported by whatever polls a failed load that nobody was told of, and by nothing else.
Each such report, and each script that is asked for, belongs to the loads that its step deals with;
and where no other gate is asked for the URL, these are all the reports of the run about it. -/
theorem load_events_account_for_loads (hosts : σ) (steps : List (WatchedStep η σ φ α))
    (gate : GateId) (url : String) :
    let start : WatchedScene η σ τ φ α := initial hosts
    let loads := (start.after steps).world.loads
    let ofUrl := loads.filter (Load.isFor gate url)
    let dealings := start.dealings gate url steps
    let events := dealings.flatMap Effect.events
    let started := events.filter (·.message == "loading shadow DOM polyfill")
    let retried := events.filter (·.message == "previous polyfill load failed, retrying")
    let failed := events.filter (·.message == "polyfill failed to load")
    dealings.flatMap Effect.scripts = List.replicate ofUrl.length url ∧
    started = List.replicate ofUrl.length (.loadStarted url) ∧
    retried = List.replicate (ofUrl.length - 1) (.loadRetried url) ∧
    failed = (ofUrl.filterMap Load.told?).map (.loadFailed url) ∧
    retried.length ≤ failed.length ∧ failed.length ≤ retried.length + 1 ∧
    events.filter (·.loadUrl?.isSome) = Event.ofLoads url (ofUrl.map Load.told?) ∧
    (∀ (id : LoadId) (l : Load τ) (reason : String), loads[id]? = some l →
      l.isFor gate url = true → start.Told steps id url reason →
      ∃! before, ∃ x rest, steps = before ++ x :: rest ∧ (start.after before).Polls x id ∧
        (step x (start.after before)).events = [.loadFailed url reason]) ∧
    (∀ before x rest, steps = before ++ x :: rest →
      let now := start.after before
      (∀ u reason, .loadFailed u reason ∈ (step x now).events ↔ ∃ id l g, now.Polls x id ∧
        now.world.loads[id]? = some l ∧ l.isFor g u = true ∧
        l.outcome? = some (.failed reason) ∧ ¬ start.Told before id u reason) ∧
      (∀ e ∈ (step x now).events, ∀ u, e.loadUrl? = some u → ∃ g, now.deals x = some (g, u)) ∧
      ∀ u ∈ (step x now).scripts, ∃ g, now.deals x = some (g, u)) ∧
    ((∀ before x rest, steps = before ++ x :: rest → ∀ g,
        (start.after before).asks x = some (g, url) → g = gate) →
      (run steps start).events.filter (·.loadUrl? == some url) =
          events.filter (·.loadUrl?.isSome) ∧
        (run steps start).scripts.filter (· == url) = dealings.flatMap Effect.scripts) := by
  intro start loads ofUrl dealings events started retried failed
  have hstart : Load.history gate url start.world.loads = [] := rfl
  obtain ⟨hreported, hasked⟩ := run_account (reachable_initial hosts) steps gate url
  rw [hstart] at hreported hasked
  have hevents : events.filter (·.loadUrl?.isSome) = dealings.flatMap Effect.loadEvents :=
    List.filter_flatMap
  have haccount : events.filter (·.loadUrl?.isSome) = Event.ofLoads url (ofUrl.map Load.told?) :=
    hevents.trans hreported.symm
  have habout (message : String) (h : ∀ e : Event, e.message = message → e.loadUrl?.isSome) :
      events.filter (·.message == message) =
        (Event.ofLoads url (ofUrl.map Load.told?)).filter (·.message == message) := by
    rw [← haccount, Event.filter_message h]
  have hlength : (ofUrl.map Load.told?).length = ofUrl.length := List.length_map _
  have hstarted : started = List.replicate ofUrl.length (.loadStarted url) := by
    rw [← hlength, ← Event.filter_started_ofLoads]
    exact habout _ fun e he => by simp [Event.isSome_loadUrl?, he]
  have hretried : retried = List.replicate (ofUrl.length - 1) (.loadRetried url) := by
    rw [← hlength, ← Event.filter_retried_ofLoads]
    exact habout _ fun e he => by simp [Event.isSome_loadUrl?, he]
  have hfailed : failed = (ofUrl.filterMap Load.told?).map (.loadFailed url) := by
    have hmap : ofUrl.filterMap Load.told? = (ofUrl.map Load.told?).filterMap id := by
      rw [List.filterMap_map, Function.id_comp]
    rw [hmap, ← Event.filter_failed_ofLoads]
    exact habout _ fun e he => by simp [Event.isSome_loadUrl?, he]
  have hle : ofUrl.length - 1 ≤ (ofUrl.filterMap Load.told?).length :=
    Load.length_le_told (((reachable_initial hosts).after steps).succession gate url).pairwise
  have hle' := List.length_filterMap_le Load.told? ofUrl
  refine ⟨?_, hstarted, hretried, hfailed, ?_, ?_, haccount, ?_, ?_, ?_⟩
  · rw [← hlength]
    exact hasked.symm
  · rw [hretried, hfailed, List.length_replicate, List.length_map]
    exact hle
  · rw [hretried, hfailed, List.length_replicate, List.length_map]
    omega
  · exact fun id l reason hl hfor htold => exists_unique_warning hl hfor htold
  · exact fun before x rest _ => ⟨fun u reason => warns_iff, fun e he u hu => deals_of_event he hu,
      fun u hu => deals_of_script hu⟩
  · intro hone
    rw [hevents]
    exact run_of_url steps hone

/-- Two wait for a load that fails. Whoever is polled first tells it, and the next who asks has the
script loaded again. -/
example :
    let ask (name : String) : WatchedStep HostRef Hosts Simulation.Factory Json.Value :=
      .ready (.named "gate") ⟨⟨"page"⟩⟩ "url" name
    let start : WatchedScene HostRef Hosts HostRef Simulation.Factory Json.Value := initial []
    let steps :=
      [ask "first", ask "second", .settle 0 (.failed "404"), .poll 1, .poll 0, ask "third"]
    (run steps start).events.filter (·.loadUrl?.isSome) =
      Event.ofLoads "url" [some "404", none] := by
  decide +kernel

end Scene

end CreationLoader
