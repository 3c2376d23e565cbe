import CreationLoader.Browser.Session
import CreationLoader.Proofs.Pages
import CreationLoader.Proofs.Polling
import CreationLoader.Proofs.Registering
import Mathlib.Tactic.SplitIfs

/-!
# Steps and runs of sessions on a page

What one step does to a session: most steps change the page and the names alone, some leave a
loader, a handle or a promise behind, and only the job queue goes on with promises. Script
elements are appended by inits, which ask the page's gate for them, and by loads that a script
asks a host for; none is ever taken away.
-/

namespace CreationLoader.Browser

/-- The element that a step lets fire an event, and the event. -/
def Step.fired? : Step → Option (Nat × String)
  | .fire script event => some (script, event)
  | _ => none

namespace Session
open Script

def reading (s : Session) (scope : Scope) : Session :=
  { s with
    names := scope.names
    world := { s.world with hosts := { s.world.hosts with heap := scope.heap } } }

section
variable {values : List (Option Json.Value)} {k : List Value → Run Answer} {s : Session}

theorem withValues_of_error {name : String}
    (h : readAll ⟨s.world.hosts.heap, s.names⟩ values = .error name) :
    withValues values k s = { value := .refused (.missing (.name name)), state := s } := by
  simp [withValues, refuse, h]

theorem withValues_of_ok {given : List Value} {scope : Scope}
    (h : readAll ⟨s.world.hosts.heap, s.names⟩ values = .ok (given, scope)) :
    withValues values k s = k given (s.reading scope) := by
  simp [withValues, reading, h]

end

theorem withLoader_of_none {name : String} {k : Loader Document Class Value → Run Answer}
    {s : Session} (h : s.loaders.lookup name = none) :
    withLoader name k s = { value := .refused (.missing (.loader name)), state := s } := by
  simp [withLoader, refuse, h]

theorem withLoader_of_some {name : String} {k : Loader Document Class Value → Run Answer}
    {s : Session} {l : Loader Document Class Value}
    (h : s.loaders.lookup name = some l) : withLoader name k s = k l s := by
  simp [withLoader, h]

theorem withHandle_of_none {name : String} {k : Handle Document Class Value → Run Answer}
    {s : Session} (h : s.handles.lookup name = none) :
    withHandle name k s = { value := .refused (.missing (.handle name)), state := s } := by
  simp [withHandle, refuse, h]

theorem withHandle_of_some {name : String} {k : Handle Document Class Value → Run Answer}
    {s : Session} {handle : Handle Document Class Value}
    (h : s.handles.lookup name = some handle) : withHandle name k s = k handle s := by
  simp [withHandle, h]

theorem heap_bind {α : Type} (f : Heap → Run α) (s : Session) :
    (heap >>= f) s = f s.world.hosts.heap s := by
  simp [heap]

theorem newLoader_state (realm : Realm Value) (registry config : Value) (s : Session) :
    (newLoader realm registry config s).state = s := by
  have hstate := readRegistry_state (κ := Call) realm Class.mk registry s
  cases hr : (readRegistry (κ := Call) realm Class.mk registry s).value with
  | error message => simp [newLoader, heap, hr, hstate]
  | ok r =>
    cases hc : readConfig s.world.hosts.heap config with
    | error message => simp [newLoader, heap, hr, hstate, hc]
    | ok c =>
      cases hd : s.world.hosts.document? with
      | error message => simp [newLoader, heap, hr, hstate, hc, hd]
      | ok d => simp [newLoader, heap, hr, hstate, hc, hd]

theorem newLoader_ok {realm : Realm Value} {registry config : Value} {s : Session}
    {l : Loader Document Class Value} (hl : (newLoader realm registry config s).value = .ok l) :
    (readRegistry (κ := Call) realm Class.mk registry s).value = .ok l.registry ∧
      l.gate = pageGate := by
  have hstate := readRegistry_state (κ := Call) realm Class.mk registry s
  cases hr : (readRegistry (κ := Call) realm Class.mk registry s).value with
  | error message => simp [newLoader, heap, hr] at hl
  | ok r =>
    cases hc : readConfig s.world.hosts.heap config with
    | error message => simp [newLoader, heap, hr, hstate, hc] at hl
    | ok c =>
      cases hd : s.world.hosts.document? with
      | error message => simp [newLoader, heap, hr, hstate, hc, hd] at hl
      | ok d =>
        obtain rfl : ⟨r, c, d, pageGate⟩ = l := by
          simpa [newLoader, heap, hr, hstate, hc, hd] using hl
        exact ⟨rfl, rfl⟩

/-- Nothing but the page and the names has changed, and the page has the same script elements. -/
def Kept (s v : Session) : Prop :=
  ∃ page names, page.scripts = s.world.hosts.scripts ∧
    v = { s with world := { s.world with hosts := page }, names }

theorem Kept.refl (s : Session) : s.Kept s := ⟨s.world.hosts, s.names, rfl, rfl⟩

theorem kept_reading (s : Session) (scope : Scope) : s.Kept (s.reading scope) :=
  ⟨{ s.world.hosts with heap := scope.heap }, scope.names, rfl, rfl⟩

theorem Kept.handles {s v : Session} (h : s.Kept v) : v.handles = s.handles := by
  obtain ⟨page, names, -, rfl⟩ := h
  rfl

theorem Kept.page {s v : Session} (h : s.Kept v) (page : Page)
    (hpage : page.scripts = v.world.hosts.scripts) :
    s.Kept { v with world := { v.world with hosts := page } } := by
  obtain ⟨before, names, hbefore, rfl⟩ := h
  exact ⟨page, names, hpage.trans hbefore, rfl⟩

/-- What a step can do to a session. -/
inductive Change (s : Session) : Step → Session → Prop
  | kept {x : Step} {v : Session} : x.fired? = none → s.Kept v → Change s x v
  | loader {x : Step} {v : Session} (name : String) {l : Loader Document Class Value} :
      x.fired? = none → s.Kept v → l.gate = pageGate →
      Change s x { v with loaders := (name, l) :: v.loaders }
  | handle {x : Step} {v : Session} (name : String) {h : Handle Document Class Value} :
      x.fired? = none → s.Kept v →
      (h.gate = pageGate ∨ ∃ e ∈ s.loaders, h.gate = e.2.gate) →
      Change s x { v with handles := (name, h) :: v.handles }
  | bound {x : Step} {v : Session} {key selector name : String}
      {h : Handle Document Class Value} {overrides : Option (Params Value)}
      {pending : Pending Document Class Value} :
      x.fired? = none → s.Kept v → (key, h) ∈ s.handles →
      (h.init selector overrides v.world).value = .ok pending →
      Change s x { v with
        world := (h.init selector overrides v.world).state
        promises := v.promises ++ [{ name, job := .binding pending }] }
  | load (url name : String) :
      Change s (.host (.loadScript url name)) (askHost (.loadScript url name) s).state
  | ran : Change s .run (run s).state
  | fired (script : Nat) (event : String) :
      Change s (.fire script event) (fire script event s).state

section
variable {s v : Session} {x : Step}

theorem Change.withValues {values : List (Option Json.Value)} {k : List Value → Run Answer}
    (hx : x.fired? = none) (h : ∀ given v, s.Kept v → s.Change x (k given v).state) :
    s.Change x (withValues values k s).state := by
  cases hr : readAll ⟨s.world.hosts.heap, s.names⟩ values with
  | error name =>
    rw [withValues_of_error hr]
    exact .kept hx (.refl s)
  | ok read =>
    obtain ⟨given, scope⟩ := read
    rw [withValues_of_ok hr]
    exact h given _ (s.kept_reading scope)

theorem Change.withLoader {name : String} {k : Loader Document Class Value → Run Answer}
    (hx : x.fired? = none)
    (h : ∀ l, s.loaders.lookup name = some l → s.Change x (k l s).state) :
    s.Change x (withLoader name k s).state := by
  cases hl : s.loaders.lookup name with
  | none =>
    rw [withLoader_of_none hl]
    exact .kept hx (.refl s)
  | some l =>
    rw [withLoader_of_some hl]
    exact h l hl

theorem Change.withHandle {name : String} {k : Handle Document Class Value → Run Answer}
    (hx : x.fired? = none) (hv : s.Kept v)
    (h : ∀ handle, v.handles.lookup name = some handle → s.Change x (k handle v).state) :
    s.Change x (withHandle name k v).state := by
  cases hh : v.handles.lookup name with
  | none =>
    rw [withHandle_of_none hh]
    exact .kept hx hv
  | some handle =>
    rw [withHandle_of_some hh]
    exact h handle hh

theorem createHandle_change {l : Loader Document Class Value} {id name : String}
    (hx : x.fired? = none) (hv : s.Kept v)
    (hl : l.gate = pageGate ∨ ∃ e ∈ s.loaders, l.gate = e.2.gate) :
    s.Change x (createHandle l id name v).state := by
  have hpage := construct_state l id v.world.hosts
  cases hc : (l.construct id v.world.hosts).value with
  | error e => simpa [createHandle, onPage, onWorld, World.onHosts, hc, hpage] using .kept hx hv
  | ok h =>
    have hgate := (Loader.construct_ok hc).2.2
    simpa [createHandle, onPage, onWorld, World.onHosts, hc, hpage] using
      Change.handle name hx hv (hgate ▸ hl)

theorem change_makeLoader (registry config : Option Json.Value) (name : String) (s : Session) :
    s.Change (.makeLoader registry config name) (makeLoader registry config name s).state := by
  refine .withValues rfl fun given v hv => ?_
  generalize given.headD .undefined = r, (given.drop 1).headD .undefined = c
  rw [heap_bind]
  generalize v.world.hosts.heap.realm = realm
  have hstate := newLoader_state realm r c v
  cases hl : (newLoader realm r c v).value with
  | error message => simpa [throwToScript, hl, hstate] using .kept rfl hv
  | ok l => simpa [hl, hstate] using Change.loader name rfl hv (newLoader_ok hl).2

theorem change_makeHandle (registry config : Option Json.Value) (id name : String) (s : Session) :
    s.Change (.makeHandle registry config id name)
      (makeHandle registry config id name s).state := by
  refine .withValues rfl fun given v hv => ?_
  generalize given.headD .undefined = r, (given.drop 1).headD .undefined = c
  rw [heap_bind]
  generalize v.world.hosts.heap.realm = realm
  have hstate := newLoader_state realm r c v
  cases hl : (newLoader realm r c v).value with
  | error message => simpa [throwToScript, hl, hstate] using .kept rfl hv
  | ok l =>
    have hmade : s.Change (.makeHandle registry config id name) (createHandle l id name v).state :=
      createHandle_change rfl hv (.inl (newLoader_ok hl).2)
    simpa [hl, hstate] using hmade

section
variable {realm : Realm Value} {h : Handle Document Class Value} {selector params : Value}
  {name : String}

theorem initHandle_of_no_string (hk : ∀ text, realm.kind selector ≠ .string text) :
    initHandle realm h selector params name s =
      { value := .nothing, state := s, events := [.selectorMissing h.id] } := by
  cases hs : realm.kind selector with
  | string text => exact absurd hs (hk text)
  | _ => simp [initHandle, hs]

variable {target : String} (hk : realm.kind selector = .string target)
include hk

/-- What is thrown when the parameters are listed leaves the init, and nothing has been done. -/
theorem initHandle_of_thrown {thrown : String} (hparams : paramsOf realm params = .error thrown) :
    initHandle realm h selector params name s =
      { value := .refused (.thrown thrown), state := s } := by
  simp [initHandle, hk, hparams, throwToScript]

variable {overrides : Option (Params Value)} (hparams : paramsOf realm params = .ok overrides)
include hparams

theorem initHandle_of_error {e : LoaderError}
    (hp : (h.init target overrides s.world).value = .error e) :
    (initHandle realm h selector params name s).value = .nothing ∧
      (initHandle realm h selector params name s).state = s := by
  have hworld : (h.init target overrides s.world).state = s.world := by
    rcases init_cases h target overrides s.world with ⟨-, hw⟩ | ⟨hok, -⟩ | ⟨hok, -⟩
    · exact hw
    · exact nomatch hp.symm.trans hok
    · exact nomatch hp.symm.trans hok
  simp [initHandle, hk, hparams, onWorld, hp, hworld]

theorem initHandle_of_ok (name : String) {pending : Pending Document Class Value}
    (hp : (h.init target overrides s.world).value = .ok pending) :
    (initHandle realm h selector params name s).value = .promise ∧
      (initHandle realm h selector params name s).state =
        { s with
          world := (h.init target overrides s.world).state
          promises := s.promises ++ [{ name, job := .binding pending }] } := by
  simp [initHandle, hk, hparams, onWorld, promise, hp]

end

theorem change_init (handle : String) (selector params : Option Json.Value) (name : String)
    (s : Session) :
    s.Change (.init handle selector params name) (init handle selector params name s).state := by
  refine .withValues rfl fun given v hv => .withHandle rfl hv fun h hh => ?_
  generalize given.headD .undefined = target, (given.drop 1).headD .undefined = params
  have hmem : (handle, h) ∈ s.handles := hv.handles ▸ Association.mem_of_lookup hh
  rw [heap_bind]
  generalize v.world.hosts.heap.realm = realm
  by_cases hk : ∃ text, realm.kind target = .string text
  · obtain ⟨selector, hk⟩ := hk
    cases hparams : paramsOf realm params with
    | error thrown =>
      rw [initHandle_of_thrown hk hparams]
      exact .kept rfl hv
    | ok overrides =>
      cases hp : (h.init selector overrides v.world).value with
      | error e =>
        rw [(initHandle_of_error hk hparams hp).2]
        exact .kept rfl hv
      | ok pending =>
        rw [(initHandle_of_ok hk hparams _ hp).2]
        exact .bound rfl hv hmem hp
  · rw [initHandle_of_no_string fun text ht => hk ⟨text, ht⟩]
    exact .kept rfl hv

theorem withPromise_state {k : Promise → Run Answer} (hk : ∀ p s, (k p s).state = s)
    (name : String) (s : Session) : (withPromise name k s).state = s := by
  cases hp : s.promise? name <;> simp [withPromise, refuse, hp, hk]

theorem askHost_state {what : HostStep} (s : Session)
    (h : ∀ url name, what ≠ .loadScript url name) : (askHost what s).state = s := by
  cases hd : s.world.hosts.document? with
  | error message => simp [askHost, withDocument, throwToScript, hd]
  | ok d =>
    cases what with
    | loadScript url name => exact absurd rfl (h url name)
    | _ => simp [askHost, withDocument, hd, onPage, onWorld, World.onHosts, heap]

/-- What one step does to a session. -/
theorem step_change (x : Step) (s : Session) : s.Change x (step x s).state := by
  cases x with
  | page change =>
    refine .withValues rfl fun given v hv => ?_
    exact .kept rfl (hv.page _ rfl)
  | host what =>
    cases what with
    | loadScript url name => exact .load url name
    | _ =>
      refine .kept rfl ?_
      rw [step, askHost_state s (by simp)]
      exact .refl s
  | version => exact .kept rfl (.refl s)
  | start => exact .kept rfl (.refl s)
  | makeLoader registry config name => exact change_makeLoader registry config name s
  | has loader id => exact .withLoader rfl fun l _ => .kept rfl (.refl s)
  | create loader id name =>
    refine .withLoader rfl fun l hl => createHandle_change rfl (.refl s) (.inr ?_)
    exact ⟨(loader, l), Association.mem_of_lookup hl, rfl⟩
  | makeHandle registry config id name => exact change_makeHandle registry config id name s
  | init handle selector params name => exact change_init handle selector params name s
  | run => exact .ran
  | promise name =>
    refine .kept rfl ?_
    rw [step, withPromise_state]
    · exact .refl s
    · exact fun p s => rfl
  | same promise index param value =>
    refine .withValues rfl fun given v hv => ?_
    generalize given.headD .undefined = u
    refine .kept rfl ?_
    rw [withPromise_state]
    · exact hv
    · intro p s
      rcases p.settled with _ | made | _ | _ | _
      · rfl
      · cases hi : made[index]? with
        | none => simp [heap, hi]
        | some i =>
          cases hp : s.world.hosts.heap.hasProperty (.object i.params) param <;>
            simp [heap, hi, hp]
      · rfl
      · rfl
      · rfl
  | fire script event => exact .fired script event
  | registry value =>
    refine .withValues rfl fun given v hv => ?_
    generalize given.headD .undefined = u
    have hstate := readRegistry_state (κ := Call) v.world.hosts.heap.realm Class.mk u v
    cases hr : (readRegistry (κ := Call) v.world.hosts.heap.realm Class.mk u v).value <;>
      exact .kept rfl (by simpa [heap, throwToScript, hr, hstate] using hv)
  | config value =>
    refine .withValues rfl fun given v hv => ?_
    generalize given.headD .undefined = u
    cases hc : readConfig v.world.hosts.heap u <;>
      exact .kept rfl (by simpa [heap, throwToScript, hc] using hv)
  | params value =>
    refine .withValues rfl fun given v hv => ?_
    generalize given.headD .undefined = u
    rcases hp : paramsOf v.world.hosts.heap.realm u with thrown | _ | p
    · exact .kept rfl (by simpa [heap, throwToScript, hp] using hv)
    · exact .kept rfl (by simpa [heap, hp] using hv)
    · have hmade := hv.page (newParams p v.world.hosts).state rfl
      exact .kept rfl (by simpa [heap, hp, onPage, onWorld, World.onHosts] using hmade)
  | define values => exact .withValues rfl fun given v hv => .kept rfl hv

end

/-- A load that a script asks a host for is begun, and waited for, if the page has a document. -/
theorem askHost_loadScript_state (url name : String) (s : Session) :
    (askHost (.loadScript url name) s).state = s ∨ ∃ d : Document,
      let begun := Host.loadScript d url s.world.hosts
      (askHost (.loadScript url name) s).state =
        { s with
          world :=
            { hosts := begun.state
              loads := s.world.loads ++
                [⟨none, url, begun.value.source, begun.value.outcome.elim .pending .settled⟩] }
          promises := s.promises ++ [{ name, job := .load s.world.loads.length }] } := by
  cases hd : s.world.hosts.document? with
  | error message => exact .inl (by simp [askHost, withDocument, throwToScript, hd])
  | ok d =>
    refine .inr ⟨d, ?_⟩
    simp [askHost, withDocument, hd, onPage, onWorld, World.onHosts, World.beginLoad, promise]

/-- The events by which a script element tells what has become of it. -/
inductive TagEvent
  | load
  | error
  deriving DecidableEq

namespace TagEvent

def named? (name : String) : Option TagEvent :=
  if name = "onload" then some load else if name = "onerror" then some error else none

def outcome (url : String) : TagEvent → Outcome
  | load => .loaded
  | error => .failed (url ++ " did not load")

theorem map_outcome_named? (url name : String) :
    (named? name).map (outcome url) =
      if name = "onload" then some .loaded
      else if name = "onerror" then some (.failed (url ++ " did not load"))
      else none := by
  unfold named?
  split_ifs <;> rfl

end TagEvent

section
variable {s : Session} {script : Nat} {name : String}

/-- An element that fires an event settles its load. After the outcome has been told, this
changes nothing any more. -/
theorem fire_of_event {id : LoadId} {l : Load (Option Nat)} {event : TagEvent}
    (hscript : script < s.world.hosts.scripts.length)
    (hid : s.world.loads.findIdx? (fun l => l.source == some script) = some id)
    (hl : s.world.loads[id]? = some l) (hevent : TagEvent.named? name = some event) :
    (fire script name s).state = { s with world := s.world.settle id (event.outcome l.url) } := by
  have houtcome := TagEvent.map_outcome_named? l.url name
  rw [hevent, Option.map_some] at houtcome
  rcases hp : l.progress with _ | told | told
  · simp [fire, hscript, hid, hl, World.progress?, hp, ← houtcome]
  · simp [fire, hscript, hid, hl, World.progress?, hp, ← houtcome]
  · have hsame : s.world.settle id (event.outcome l.url) = s.world := by
      have hloads : s.world.loads.modify id (Load.settle (event.outcome l.url)) = s.world.loads :=
        World.modify_eq_self fun m hm => by
          obtain rfl := Option.some.inj (hl.symm.trans hm)
          exact Load.settle_of_not_isOpen (by simp [Load.isOpen, hp])
      rw [World.settle, hloads]
    simp [fire, hscript, hid, hl, World.progress?, hp, ← houtcome, hsame]

theorem fire_of_no_event
    (h : script < s.world.hosts.scripts.length → TagEvent.named? name = none) :
    (fire script name s).state = s := by
  by_cases hscript : script < s.world.hosts.scripts.length
  · cases hid : s.world.loads.findIdx? fun l => l.source == some script with
    | none => simp [fire, hscript, hid]
    | some id =>
      cases hl : s.world.loads[id]? with
      | none => simp [fire, hscript, hid, hl]
      | some l =>
        have houtcome := TagEvent.map_outcome_named? l.url name
        rw [h hscript, Option.map_none] at houtcome
        simp [fire, hscript, hid, hl, ← houtcome]
  · simp [fire, hscript, refuse]

theorem fire_frame (script : Nat) (name : String) (s : Session) :
    (fire script name s).state = s ∨
      ∃ id outcome, (fire script name s).state = { s with world := s.world.settle id outcome } := by
  cases hevent : TagEvent.named? name with
  | none => exact .inl (fire_of_no_event fun _ => hevent)
  | some event =>
    by_cases hscript : script < s.world.hosts.scripts.length
    · cases hid : s.world.loads.findIdx? fun l => l.source == some script with
      | none => exact .inl (by simp [fire, hscript, hid])
      | some id =>
        cases hl : s.world.loads[id]? with
        | none => exact .inl (by simp [fire, hscript, hid, hl])
        | some l => exact .inr ⟨id, _, fire_of_event hscript hid hl hevent⟩
    · exact .inl (fire_of_no_event fun h => absurd h hscript)

end

def after (s : Session) : List Step → Session
  | [] => s
  | x :: rest => (step x s).state.after rest

@[simp] theorem after_nil (s : Session) : s.after [] = s := rfl

@[simp] theorem after_cons (x : Step) (rest : List Step) (s : Session) :
    s.after (x :: rest) = (step x s).state.after rest := rfl

theorem after_append (steps more : List Step) (s : Session) :
    s.after (steps ++ more) = (s.after steps).after more := by
  induction steps generalizing s with
  | nil => rfl
  | cons x rest ih => exact ih (step x s).state

end Session

end CreationLoader.Browser
