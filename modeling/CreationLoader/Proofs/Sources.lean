import CreationLoader.Proofs.Promises

/-!
# Script elements and their loads

Every script element in the head is the source of one load, and the load has the outcome that the
element has fired first. So it is for the loads of gates, and for those that a script asks a host
for.
-/

namespace CreationLoader.Browser.Session

/-- A session at its start, on a page whose head has no script elements yet. -/
def startOn (page : Page) : Session := { world := { hosts := { page with scripts := [] } } }

theorem step_scripts (x : Step) (s : Session) :
    s.world.hosts.scripts <+: (step x s).state.world.hosts.scripts := by
  have hchange := step_change x s
  have hkeeps {v : Session} (h : s.Kept v) :
      s.world.hosts.scripts <+: v.world.hosts.scripts := by
    obtain ⟨page, names, hscripts, rfl⟩ := h
    exact hscripts ▸ List.prefix_rfl
  generalize hv : (step x s).state = v at hchange
  cases hchange with
  | kept _ hkept => exact hkeeps hkept
  | loader name _ hkept =>
    have hpage := hkeeps hkept
    exact hpage
  | handle name _ hkept =>
    have hpage := hkeeps hkept
    exact hpage
  | bound _ hkept => exact (hkeeps hkept).trans (init_scripts _ _ _ _)
  | load url name =>
    rcases askHost_loadScript_state url name s with hstate | ⟨d, hstate⟩
    · simp only [hstate, List.prefix_rfl]
    · rw [hstate]
      exact loadScript_scripts d url s.world.hosts
  | ran =>
    obtain ⟨world, promises, hstate, hscripts, -⟩ := run_frame s
    simp only [hstate, hscripts, List.prefix_rfl]
  | fired script name =>
    rcases fire_frame script name s with hstate | ⟨id, outcome, hstate⟩
    · simp only [hstate, List.prefix_rfl]
    · simp only [hstate, World.settle, List.prefix_rfl]

theorem after_scripts (steps : List Step) (s : Session) :
    s.world.hosts.scripts <+: (s.after steps).world.hosts.scripts := by
  induction steps generalizing s with
  | nil => exact List.prefix_rfl
  | cons x rest ih => exact (step_scripts x s).trans (ih (step x s).state)

def fires? (s : Session) (x : Step) : Option (Nat × TagEvent) :=
  x.fired?.bind fun e =>
    if e.1 < s.world.hosts.scripts.length then (TagEvent.named? e.2).map (e.1, ·) else none

/-- The load and error events that script elements fire from step to step. -/
def fired (s : Session) : List Step → List (Nat × TagEvent)
  | [] => []
  | x :: rest => (s.fires? x).toList ++ (step x s).state.fired rest

theorem fired_append (steps more : List Step) (s : Session) :
    s.fired (steps ++ more) = s.fired steps ++ (s.after steps).fired more := by
  induction steps generalizing s with
  | nil => rfl
  | cons x rest ih => simp [fired, ih]

/-- What the record of loads has to do with the script elements and the events that they have
fired: each element is the source of one load, in the same order, and its first event has given
the load its outcome. -/
structure Sourced (history : List (Nat × TagEvent)) (w : World Page (Option Nat)) : Prop where
  sources : w.loads.filterMap Load.source = List.range w.hosts.scripts.length
  urls : ∀ l ∈ w.loads, ∀ i, l.source = some i → w.hosts.scripts[i]? = some l.url
  outcomes : ∀ l ∈ w.loads, ∀ i, l.source = some i →
    l.outcome? = (history.lookup i).map (TagEvent.outcome l.url)
  events : ∀ e ∈ history, e.1 < w.hosts.scripts.length

namespace Sourced
variable {history : List (Nat × TagEvent)} {w v : World Page (Option Nat)}

theorem exists_load (h : Sourced history w) {i : Nat} (hi : i < w.hosts.scripts.length) :
    ∃ (id : LoadId) (l : Load (Option Nat)), w.loads[id]? = some l ∧ l.source = some i := by
  have hmem : i ∈ w.loads.filterMap Load.source := by
    rw [h.sources]
    exact List.mem_range.mpr hi
  obtain ⟨l, hl, hsource⟩ := List.mem_filterMap.mp hmem
  obtain ⟨id, hid⟩ := List.mem_iff_getElem?.mp hl
  exact ⟨id, l, hid, hsource⟩

theorem findIdx? (h : Sourced history w) {i : Nat} (hi : i < w.hosts.scripts.length) :
    ∃ (id : LoadId) (l : Load (Option Nat)),
      w.loads.findIdx? (fun l => l.source == some i) = some id ∧ w.loads[id]? = some l ∧
        l.source = some i := by
  obtain ⟨id, l, hl, hsource⟩ := h.exists_load hi
  cases hfind : w.loads.findIdx? fun l => l.source == some i with
  | none =>
    have hnot := List.findIdx?_eq_none_iff.mp hfind l (List.mem_of_getElem? hl)
    simp [hsource] at hnot
  | some id' =>
    obtain ⟨hlt, hfound, -⟩ := List.findIdx?_eq_some_iff_getElem.mp hfind
    exact ⟨id', _, rfl, List.getElem?_eq_getElem hlt, by simpa using hfound⟩

/-- Loads were begun in the order in which their elements stand in the head. -/
theorem source_lt (h : Sourced history w) {a b : LoadId} {l m : Load (Option Nat)} {i j : Nat}
    (hl : w.loads[a]? = some l) (hm : w.loads[b]? = some m) (hi : l.source = some i)
    (hj : m.source = some j) (hab : a < b) : i < j := by
  have hpairs : w.loads.Pairwise fun l m =>
      ∀ i, l.source = some i → ∀ j, m.source = some j → i < j := by
    rw [← List.pairwise_filterMap, h.sources]
    exact List.pairwise_lt_range
  obtain ⟨ha, rfl⟩ := List.getElem?_eq_some_iff.mp hl
  obtain ⟨hb, rfl⟩ := List.getElem?_eq_some_iff.mp hm
  exact List.pairwise_iff_getElem.mp hpairs a b ha hb hab i hi j hj

theorem load_lt (h : Sourced history w) {a b : LoadId} {l m : Load (Option Nat)} {i j : Nat}
    (hl : w.loads[a]? = some l) (hm : w.loads[b]? = some m) (hi : l.source = some i)
    (hj : m.source = some j) (hij : i < j) : a < b := by
  rcases Nat.lt_trichotomy a b with hab | rfl | hba
  · exact hab
  · obtain rfl := Option.some.inj (hl.symm.trans hm)
    obtain rfl := Option.some.inj (hi.symm.trans hj)
    omega
  · have hji := h.source_lt hm hl hj hi hba
    omega

theorem load_unique (h : Sourced history w) {a b : LoadId} {l m : Load (Option Nat)} {i : Nat}
    (hl : w.loads[a]? = some l) (hm : w.loads[b]? = some m) (hi : l.source = some i)
    (hj : m.source = some i) : a = b := by
  rcases Nat.lt_trichotomy a b with hab | hab | hba
  · have hii := h.source_lt hl hm hi hj hab
    omega
  · exact hab
  · have hii := h.source_lt hm hl hj hi hba
    omega

theorem later {history' : List (Nat × TagEvent)} (h : Sourced history w) (hgrows : w.Grows v)
    (hlength : v.loads.length = w.loads.length) (hscripts : v.hosts.scripts = w.hosts.scripts)
    (houtcomes : ∀ (id : LoadId) (l m : Load (Option Nat)), w.loads[id]? = some l →
      v.loads[id]? = some m → ∀ i, l.source = some i →
      m.outcome? = (history'.lookup i).map (TagEvent.outcome l.url))
    (hevents : ∀ e ∈ history', e.1 < w.hosts.scripts.length) : Sourced history' v := by
  have hback : ∀ m ∈ v.loads, ∃ (id : LoadId) (l : Load (Option Nat)),
      w.loads[id]? = some l ∧ v.loads[id]? = some m ∧ l.Grows m := by
    intro m hm
    obtain ⟨id, hid⟩ := List.mem_iff_getElem?.mp hm
    have hlt : id < w.loads.length := hlength ▸ (List.getElem?_eq_some_iff.mp hid).1
    obtain ⟨l, hl, hg⟩ := hgrows.backward hid hlt
    exact ⟨id, l, hl, hid, hg⟩
  constructor
  · have hmap : v.loads.map Load.source = w.loads.map Load.source := by
      refine List.ext_getElem (by simp [hlength]) fun id hv hw => ?_
      rw [List.length_map] at hv hw
      obtain ⟨l, hl, hg⟩ := hgrows.backward (List.getElem?_eq_getElem hv) hw
      rw [List.getElem?_eq_getElem hw] at hl
      simp [Option.some.inj hl, hg.source]
    have hid (loads : List (Load (Option Nat))) :
        loads.filterMap Load.source = (loads.map Load.source).filterMap id := by
      rw [List.filterMap_map, Function.id_comp]
    rw [hscripts, hid, hmap, ← hid, h.sources]
  · intro m hm i hi
    obtain ⟨id, l, hl, -, hg⟩ := hback m hm
    rw [hscripts, hg.url]
    exact h.urls l (List.mem_of_getElem? hl) i (hg.source ▸ hi)
  · intro m hm i hi
    obtain ⟨id, l, hl, hv, hg⟩ := hback m hm
    rw [hg.url]
    exact houtcomes id l m hl hv i (hg.source ▸ hi)
  · rw [hscripts]
    exact hevents

theorem of_scripts (h : Sourced history w) (hloads : v.loads = w.loads)
    (hscripts : v.hosts.scripts = w.hosts.scripts) : Sourced history v := by
  refine h.later (.of_eq hloads) (by rw [hloads]) hscripts ?_ h.events
  intro id l m hl hm i hi
  rw [hloads] at hm
  obtain rfl := Option.some.inj (hl.symm.trans hm)
  exact h.outcomes l (List.mem_of_getElem? hl) i hi

theorem told (h : Sourced history w) (htold : w.Told v)
    (hscripts : v.hosts.scripts = w.hosts.scripts) : Sourced history v := by
  refine h.later htold.grows htold.length hscripts ?_ h.events
  intro id l m hl hm i hi
  have houtcome := h.outcomes l (List.mem_of_getElem? hl) i hi
  rcases htold id with hsame | hdelivered
  · rw [hsame, hl] at hm
    obtain rfl := Option.some.inj hm
    exact houtcome
  · rw [hdelivered, hl] at hm
    obtain rfl := Option.some.inj hm
    rw [Load.outcome?_deliver, houtcome]

/-- An event settles the load of its element, unless the element has fired one before. -/
theorem settle (h : Sourced history w) {id : LoadId} {l : Load (Option Nat)} {i : Nat}
    (hl : w.loads[id]? = some l) (hi : l.source = some i) (event : TagEvent) :
    Sourced (history ++ [(i, event)]) (w.settle id (event.outcome l.url)) := by
  refine h.later (.modify rfl (Load.grows_settle _)) (List.length_modify ..) rfl ?_ ?_
  · intro id' l' m hl' hm j hj
    have houtcome := h.outcomes l' (List.mem_of_getElem? hl') j hj
    rw [List.lookup_append]
    obtain ⟨l'', hl'', rfl⟩ := World.getElem?_modify hm
    obtain rfl := Option.some.inj (hl'.symm.trans hl'')
    by_cases hid : id = id'
    · subst hid
      obtain rfl := Option.some.inj (hl.symm.trans hl')
      obtain rfl := Option.some.inj (hi.symm.trans hj)
      rw [if_pos rfl, Load.outcome?_settle, houtcome]
      cases history.lookup i <;> simp
    · have hne : (j == i) = false := by
        refine beq_eq_false_iff_ne.mpr ?_
        rintro rfl
        exact hid (h.load_unique hl hl' hi hj)
      rw [if_neg hid, houtcome]
      simp [List.lookup_cons, hne]
  · intro e he
    rcases List.mem_append.mp he with he | he
    · exact h.events e he
    · obtain rfl := List.mem_singleton.mp he
      have hurl := h.urls l (List.mem_of_getElem? hl) i hi
      exact (List.getElem?_eq_some_iff.mp hurl).1

/-- A load that is begun has an element of its own, the last in the head, or it has failed and has
none. -/
theorem begun (h : Sourced history w) (d : Document) (gate : Option GateId) (url : String) :
    let script := Host.loadScript d url w.hosts
    Sourced history
      { hosts := script.state
        loads := w.loads ++
          [⟨gate, url, script.value.source, script.value.outcome.elim .pending .settled⟩] } := by
  intro script
  rcases loadScript_cases d url w.hosts with ⟨reason, hvalue, hstate⟩ | ⟨hvalue, hstate⟩
  · simp only [script, hvalue, hstate]
    constructor
    · simpa [failedLoad] using h.sources
    · simpa [or_imp, forall_and, failedLoad] using h.urls
    · simpa [or_imp, forall_and, failedLoad] using h.outcomes
    · exact h.events
  · simp only [script, hvalue, hstate]
    constructor
    · simp [h.sources, List.range_succ]
    · intro m hm i hi
      rcases List.mem_append.mp hm with hm | hm
      · have hurl := h.urls m hm i hi
        rw [List.getElem?_append_left (List.getElem?_eq_some_iff.mp hurl).1, hurl]
      · obtain rfl := List.mem_singleton.mp hm
        obtain rfl := Option.some.inj hi
        exact List.getElem?_concat_length
    · intro m hm i hi
      rcases List.mem_append.mp hm with hm | hm
      · exact h.outcomes m hm i hi
      · obtain rfl := List.mem_singleton.mp hm
        obtain rfl := Option.some.inj hi
        have hnone : history.lookup w.hosts.scripts.length = none := by
          rw [List.lookup_eq_none_iff]
          intro e he
          have hlt := h.events e he
          exact bne_iff_ne.mpr (by omega)
        rw [hnone]
        rfl
    · intro e he
      have hlt := h.events e he
      simp only [List.length_append]
      omega

theorem ready (h : Sourced history w) (gate : GateId) (d : Document) (url : String) :
    Sourced history (Gate.ready gate d url w).state := by
  cases hdue : w.isDue gate url with
  | false =>
    obtain ⟨id, l, -, -, hready⟩ := Gate.ready_of_not_isDue d hdue
    rw [hready]
    exact h
  | true =>
    rw [Gate.ready_of_isDue d hdue, Gate.start_apply]
    exact h.begun d (some gate) url

theorem init (h : Sourced history w) (handle : Handle Document Class Script.Value)
    (selector : String) (overrides : Option (Params Script.Value)) :
    Sourced history (handle.init selector overrides w).state := by
  rcases init_cases handle selector overrides w with ⟨-, hw⟩ | ⟨-, hw⟩ | ⟨-, hw⟩
  · rw [hw]
    exact h
  · rw [hw]
    exact h
  · rw [hw]
    exact h.ready handle.gate handle.host handle.polyfillUrl

variable {s : Session}

theorem kept {u : Session} (h : Sourced history s.world) (hu : s.Kept u) :
    Sourced history u.world := by
  obtain ⟨page, names, hscripts, rfl⟩ := hu
  exact h.of_scripts rfl hscripts

/-- An event that a script element fires settles the load of the element. -/
theorem fire_cases (h : Sourced history s.world) (script : Nat) (name : String) :
    (s.fires? (.fire script name) = none ∧ (Session.fire script name s).state = s) ∨
    ∃ id l event, s.fires? (.fire script name) = some (script, event) ∧
      s.world.loads[id]? = some l ∧ l.source = some script ∧
      (Session.fire script name s).state =
        { s with world := s.world.settle id (event.outcome l.url) } := by
  have hnothing (hn : script < s.world.hosts.scripts.length → TagEvent.named? name = none) :
      s.fires? (.fire script name) = none ∧ (Session.fire script name s).state = s :=
    ⟨by simpa [fires?, Step.fired?] using hn, fire_of_no_event hn⟩
  by_cases hscript : script < s.world.hosts.scripts.length
  · cases hevent : TagEvent.named? name with
    | none => exact .inl (hnothing fun _ => hevent)
    | some event =>
      obtain ⟨id, l, hid, hl, hsource⟩ := h.findIdx? hscript
      exact .inr ⟨id, l, event, by simp [fires?, Step.fired?, hscript, hevent], hl, hsource,
        fire_of_event hscript hid hl hevent⟩
  · exact .inl (hnothing fun hlt => absurd hlt hscript)

theorem fire (h : Sourced history s.world) (script : Nat) (name : String) :
    Sourced (history ++ (s.fires? (.fire script name)).toList)
      (Session.fire script name s).state.world := by
  rcases h.fire_cases script name with
    ⟨hnone, hstate⟩ | ⟨id, l, event, hsome, hl, hsource, hstate⟩
  · rw [hnone, hstate, Option.toList_none, List.append_nil]
    exact h
  · rw [hsome, hstate]
    exact h.settle hl hsource event

theorem step (h : Sourced history s.world) (x : Step) :
    Sourced (history ++ (s.fires? x).toList) (Session.step x s).state.world := by
  have hchange := step_change x s
  have hquiet (hnone : x.fired? = none) : history ++ (s.fires? x).toList = history := by
    simp [fires?, hnone]
  generalize hv : (Session.step x s).state = v at hchange
  cases hchange with
  | kept hnone hkept =>
    rw [hquiet hnone]
    exact h.kept hkept
  | loader name hnone hkept =>
    have hsame := h.kept hkept
    rw [hquiet hnone]
    exact hsame
  | handle name hnone hkept =>
    have hsame := h.kept hkept
    rw [hquiet hnone]
    exact hsame
  | bound hnone hkept =>
    rw [hquiet hnone]
    exact (h.kept hkept).init _ _ _
  | load url name =>
    rw [hquiet rfl]
    rcases askHost_loadScript_state url name s with hstate | ⟨d, hstate⟩
    · rw [hstate]
      exact h
    · rw [hstate]
      exact h.begun d none url
  | ran =>
    obtain ⟨world, promises, hstate, hscripts, htold⟩ := run_frame s
    rw [hquiet rfl, hstate]
    exact h.told htold hscripts
  | fired script name => exact h.fire script name

theorem after (h : Sourced history s.world) (steps : List Step) :
    Sourced (history ++ s.fired steps) (s.after steps).world := by
  induction steps generalizing history s with
  | nil => simpa [fired] using h
  | cons x rest ih =>
    have hthen := ih (h.step x)
    rwa [List.append_assoc] at hthen

end Sourced

/-- Whatever is done from the start, each script element is the source of one load, and has given
it its outcome. -/
theorem sourced_after (page : Page) (steps : List Step) :
    Sourced ((startOn page).fired steps) ((startOn page).after steps).world := by
  have hstart : Sourced [] (startOn page).world :=
    { sources := rfl
      urls := by simp [startOn]
      outcomes := by simp [startOn]
      events := by simp }
  exact hstart.after steps

end CreationLoader.Browser.Session
