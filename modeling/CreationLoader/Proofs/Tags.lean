import CreationLoader.Proofs.Sources
import CreationLoader.Proofs.Succession

/-!
# Script elements of one URL

All loaders of a page share its gate, so a script element is appended for a URL only when there is
none, or when the last has fired its error event and a promise has learnt of it. Each element is
the source of one load, and the outcome of the load is what the element has fired first.
-/

namespace CreationLoader.Browser
open Script

/-- A step that lets a host load a script, past the gate. -/
def Step.loadsScript : Step → Bool
  | .host (.loadScript _ _) => true
  | _ => false

namespace Session

/-- What the record of loads has to do with the script elements and the events that they have
fired: each element is the source of one load, in the same order, and its first event has given
the load its outcome. -/
structure Tagged (history : List (Nat × TagEvent)) (w : World Page (Option Nat)) : Prop where
  gates : ∀ l ∈ w.loads, l.gate = some pageGate
  succession : ∀ url, w.Succession pageGate url
  sources : w.loads.filterMap Load.source = List.range w.hosts.scripts.length
  urls : ∀ l ∈ w.loads, ∀ i, l.source = some i → w.hosts.scripts[i]? = some l.url
  outcomes : ∀ l ∈ w.loads, ∀ i, l.source = some i →
    l.outcome? = (history.lookup i).map (TagEvent.outcome l.url)
  events : ∀ e ∈ history, e.1 < w.hosts.scripts.length

namespace Tagged
variable {history : List (Nat × TagEvent)} {w v : World Page (Option Nat)}

theorem sourced (h : Tagged history w) : Sourced history w :=
  ⟨h.sources, h.urls, h.outcomes, h.events⟩

theorem isFor (h : Tagged history w) {id : LoadId} {l : Load (Option Nat)} {i : Nat} {url : String}
    (hl : w.loads[id]? = some l) (hi : l.source = some i)
    (hurl : w.hosts.scripts[i]? = some url) : l.isFor pageGate url = true := by
  have hmem := List.mem_of_getElem? hl
  refine Load.isFor_iff.mpr ⟨h.gates l hmem, ?_⟩
  exact Option.some.inj ((h.urls l hmem i hi).symm.trans hurl)

/-- Of the elements with one URL, all but the last have fired their error event. -/
theorem error_of_lt (h : Tagged history w) {i j : Nat} {url : String} (hij : i < j)
    (hi : w.hosts.scripts[i]? = some url) (hj : w.hosts.scripts[j]? = some url) :
    history.lookup i = some .error := by
  obtain ⟨a, l, hl, hlsource⟩ := h.sourced.exists_load (List.getElem?_eq_some_iff.mp hi).1
  obtain ⟨b, m, hm, hmsource⟩ := h.sourced.exists_load (List.getElem?_eq_some_iff.mp hj).1
  have htold := h.succession url a b l m (h.sourced.load_lt hl hm hlsource hmsource hij) hl hm
    (h.isFor hl hlsource hi) (h.isFor hm hmsource hj)
  obtain ⟨reason, hp⟩ := Progress.isToldFailure_iff.mp htold
  have houtcome := h.outcomes l (List.mem_of_getElem? hl) i hlsource
  rw [Load.outcome?_of_delivered hp] at houtcome
  rcases hlookup : history.lookup i with _ | _ | _
  · rw [hlookup] at houtcome
    exact nomatch houtcome
  · rw [hlookup] at houtcome
    exact nomatch houtcome
  · rfl

theorem later {history' : List (Nat × TagEvent)} (h : Tagged history w) (hgrows : w.Grows v)
    (hlength : v.loads.length = w.loads.length) (hv : Sourced history' v) : Tagged history' v := by
  refine ⟨?_, fun url => (h.succession url).grows hgrows hlength, hv.sources, hv.urls, hv.outcomes,
    hv.events⟩
  intro m hm
  obtain ⟨id, hid⟩ := List.mem_iff_getElem?.mp hm
  have hlt : id < w.loads.length := hlength ▸ (List.getElem?_eq_some_iff.mp hid).1
  obtain ⟨l, hl, hg⟩ := hgrows.backward hid hlt
  rw [hg.gate]
  exact h.gates l (List.mem_of_getElem? hl)

theorem of_scripts (h : Tagged history w) (hloads : v.loads = w.loads)
    (hscripts : v.hosts.scripts = w.hosts.scripts) : Tagged history v :=
  h.later (.of_eq hloads) (by rw [hloads]) (h.sourced.of_scripts hloads hscripts)

theorem told (h : Tagged history w) (htold : w.Told v)
    (hscripts : v.hosts.scripts = w.hosts.scripts) : Tagged history v :=
  h.later htold.grows htold.length (h.sourced.told htold hscripts)

theorem settle (h : Tagged history w) {id : LoadId} {l : Load (Option Nat)} {i : Nat}
    (hl : w.loads[id]? = some l) (hi : l.source = some i) (event : TagEvent) :
    Tagged (history ++ [(i, event)]) (w.settle id (event.outcome l.url)) :=
  h.later (.modify rfl (Load.grows_settle _)) (List.length_modify ..) (h.sourced.settle hl hi event)

theorem ready (h : Tagged history w) (d : Document) (url : String) :
    Tagged history (Gate.ready pageGate d url w).state := by
  cases hdue : w.isDue pageGate url with
  | false =>
    obtain ⟨id, l, -, -, hready⟩ := Gate.ready_of_not_isDue d hdue
    rw [hready]
    exact h
  | true =>
    rw [Gate.ready_of_isDue d hdue, Gate.start_apply]
    have hv := h.sourced.begun d (some pageGate) url
    refine ⟨?_, fun other => ?_, hv.sources, hv.urls, hv.outcomes, hv.events⟩
    · simpa [or_imp, forall_and, Gate.begun] using h.gates
    · refine (h.succession other).append rfl fun hfor => ?_
      obtain ⟨-, rfl⟩ := Gate.begun_isFor_iff.mp hfor
      exact hdue

end Tagged

/-- All loaders and handles share the gate of the page, and what they have begun there is told by
the script elements. -/
structure Shared (history : List (Nat × TagEvent)) (s : Session) : Prop where
  loaders : ∀ e ∈ s.loaders, e.2.gate = pageGate
  handles : ∀ e ∈ s.handles, e.2.gate = pageGate
  tagged : Tagged history s.world

namespace Shared
variable {history : List (Nat × TagEvent)} {s v : Session} {x : Step}

theorem start (page : Page) : Shared [] (startOn page) where
  loaders := by simp [startOn]
  handles := by simp [startOn]
  tagged :=
    { gates := by simp [startOn]
      succession := fun url => by simp [startOn, World.Succession]
      sources := rfl
      urls := by simp [startOn]
      outcomes := by simp [startOn]
      events := by simp }

theorem kept (h : Shared history s) (hv : s.Kept v) : Shared history v := by
  obtain ⟨page, names, hscripts, rfl⟩ := hv
  exact ⟨h.loaders, h.handles, h.tagged.of_scripts rfl hscripts⟩

theorem init (h : Shared history s) {handle : Handle Document Class Value} {key selector : String}
    (hmem : (key, handle) ∈ s.handles) (overrides : Option (Params Value)) :
    Tagged history (handle.init selector overrides s.world).state := by
  rcases init_cases handle selector overrides s.world with ⟨-, hw⟩ | ⟨-, hw⟩ | ⟨-, hw⟩
  · rw [hw]
    exact h.tagged
  · rw [hw]
    exact h.tagged
  · have hgate : handle.gate = pageGate := h.handles _ hmem
    rw [hw, hgate]
    exact h.tagged.ready handle.host handle.polyfillUrl

theorem fire (h : Shared history s) (script : Nat) (name : String) :
    Shared (history ++ (s.fires? (.fire script name)).toList)
      (Session.fire script name s).state := by
  rcases h.tagged.sourced.fire_cases script name with
    ⟨hnone, hstate⟩ | ⟨id, l, event, hsome, hl, hsource, hstate⟩
  · rw [hnone, hstate, Option.toList_none, List.append_nil]
    exact h
  · rw [hsome, hstate]
    exact ⟨h.loaders, h.handles, h.tagged.settle hl hsource event⟩

theorem step (h : Shared history s) (hx : x.loadsScript = false) :
    Shared (history ++ (s.fires? x).toList) (Session.step x s).state := by
  have hchange := step_change x s
  have hquiet (hnone : x.fired? = none) : history ++ (s.fires? x).toList = history := by
    simp [fires?, hnone]
  generalize hv : (Session.step x s).state = v at hchange
  cases hchange with
  | kept hnone hkept =>
    rw [hquiet hnone]
    exact h.kept hkept
  | loader name hnone hkept hgate =>
    have hshared := h.kept hkept
    rw [hquiet hnone]
    exact ⟨List.forall_mem_cons.mpr ⟨hgate, hshared.loaders⟩, hshared.handles, hshared.tagged⟩
  | handle name hnone hkept hgate =>
    have hshared := h.kept hkept
    rw [hquiet hnone]
    refine ⟨hshared.loaders, List.forall_mem_cons.mpr ⟨?_, hshared.handles⟩, hshared.tagged⟩
    rcases hgate with hgate | ⟨e, he, hgate⟩
    · exact hgate
    · exact hgate.trans (h.loaders e he)
  | bound hnone hkept hmem hpending =>
    have hshared := h.kept hkept
    rw [hquiet hnone]
    exact ⟨hshared.loaders, hshared.handles, hshared.init (hkept.handles ▸ hmem) _⟩
  | load url name => exact absurd hx (by simp [Step.loadsScript])
  | ran =>
    obtain ⟨world, promises, hstate, hscripts, htold⟩ := run_frame s
    rw [hquiet rfl, hstate]
    exact ⟨h.loaders, h.handles, h.tagged.told htold hscripts⟩
  | fired script name => exact h.fire script name

theorem after {steps : List Step} (h : Shared history s)
    (hsteps : ∀ x ∈ steps, x.loadsScript = false) :
    Shared (history ++ s.fired steps) (s.after steps) := by
  induction steps generalizing history s with
  | nil => simpa [fired] using h
  | cons x rest ih =>
    obtain ⟨hx, hrest⟩ := List.forall_mem_cons.mp hsteps
    have hthen := ih (h.step hx) hrest
    rwa [List.append_assoc] at hthen

end Shared

/-- Scripts make loaders, create handles and init them, elements fire events, promises go on and
the page changes, in whatever order; only loads that a script asks a host for are left aside. Then
of the script elements with one URL, all but the last have fired an error event first. So no two
of them are in flight together. When one has fired a load event first, it stays the last, whatever
is done after that. -/
theorem tags_of_url_succeed_each_other (page : Page) {steps : List Step}
    (hsteps : ∀ x ∈ steps, x.loadsScript = false) :
    let start := startOn page
    let scripts := (start.after steps).world.hosts.scripts
    let events := start.fired steps
    (∀ (i j : Nat) (url : String), i < j → scripts[i]? = some url → scripts[j]? = some url →
      events.lookup i = some .error) ∧
    (∀ (i j : Nat) (url : String), scripts[i]? = some url → scripts[j]? = some url →
      events.lookup i = none → events.lookup j = none → i = j) ∧
    (∀ (i : Nat) (url : String), scripts[i]? = some url → events.lookup i = some .load →
      ∀ more : List Step, (∀ x ∈ more, x.loadsScript = false) → ∀ j : Nat,
      (start.after (steps ++ more)).world.hosts.scripts[j]? = some url → j ≤ i) := by
  intro start scripts events
  have htagged {steps : List Step} (hsteps : ∀ x ∈ steps, x.loadsScript = false) :=
    ((Shared.start page).after hsteps).tagged
  have hall (i j : Nat) (url : String) (hij : i < j) (hi : scripts[i]? = some url)
      (hj : scripts[j]? = some url) : events.lookup i = some .error :=
    (htagged hsteps).error_of_lt hij hi hj
  refine ⟨hall, ?_, ?_⟩
  · intro i j url hi hj hinone hjnone
    rcases Nat.lt_trichotomy i j with hij | hij | hji
    · exact nomatch hinone.symm.trans (hall i j url hij hi hj)
    · exact hij
    · exact nomatch hjnone.symm.trans (hall j i url hji hj hi)
  · intro i url hi hload more hmore j hj
    by_contra hij
    have hboth : ∀ x ∈ steps ++ more, x.loadsScript = false :=
      List.forall_mem_append.mpr ⟨hsteps, hmore⟩
    have hlater : (start.after (steps ++ more)).world.hosts.scripts[i]? = some url := by
      obtain ⟨added, hadded⟩ := after_scripts more (start.after steps)
      rw [after_append, ← hadded, List.getElem?_append_left (List.getElem?_eq_some_iff.mp hi).1]
      exact hi
    have hfired := (htagged hboth).error_of_lt (Nat.lt_of_not_le hij) hlater hj
    rw [List.nil_append, fired_append, List.lookup_append, hload] at hfired
    exact nomatch hfired

/-- A loader's script element fails, and a promise learns of it. Then the plain function makes a
handle with a loader of its own, whose init appends the second element for the URL. -/
theorem second_tag_after_error :
    let registry : Json.Value :=
      .object [("id", .object [("factory", .object [("$fn", .string "Made")])])]
    let steps : List Step :=
      [.makeLoader (some registry) none "loader", .create "loader" "id" "handle",
        .init "handle" (some (.string "div")) none "promise", .fire 0 "onerror", .run,
        .makeHandle (some registry) none "id" "other",
        .init "other" (some (.string "div")) none "retried"]
    let start := startOn { nodes := [("div", [1])] }
    (start.after steps).world.hosts.scripts = [defaultPolyfillUrl, defaultPolyfillUrl] ∧
      (start.fired steps).lookup 0 = some .error := by
  intro registry steps start
  have hscripts : (start.after steps).world.hosts.scripts =
      [defaultPolyfillUrl, defaultPolyfillUrl] := by decide +kernel
  have hsteps : ∀ x ∈ steps, x.loadsScript = false := by simp [steps, Step.loadsScript]
  clear_value steps
  obtain ⟨herror, -, -⟩ := tags_of_url_succeed_each_other { nodes := [("div", [1])] } hsteps
  refine ⟨hscripts, herror 0 1 defaultPolyfillUrl Nat.zero_lt_one ?_ ?_⟩
  · exact hscripts ▸ rfl
  · exact hscripts ▸ rfl

end Session

end CreationLoader.Browser
