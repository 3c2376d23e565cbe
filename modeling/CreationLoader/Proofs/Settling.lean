import CreationLoader.Proofs.FirstFailure
import CreationLoader.Proofs.HandedOver

/-!
# What becomes of an init

What is thrown when its parameters are listed leaves an init. Otherwise, an init that finds a match
leaves a promise behind. Runs of the job queue come to it in turn, and the first that finds the load
of the promise ended, or no load to wait for, settles it for good: to the instances that can be made
then, or to the message of what has failed.
-/

namespace CreationLoader.Browser
open Script Association

theorem construct_ok {c : Class} {node : Nat} {params : Ref} {page : Page} {made : Instance}
    (h : (c.construct node params page).value = .ok made) : made = ⟨node, params⟩ := by
  obtain ⟨received, hreceive⟩ := receive_page params page
  cases ht : (c.constructor page.heap).throws.find? fun e => e.1 == node with
  | some e => simp [Class.construct, hreceive, ht] at h
  | none => simpa [Class.construct, hreceive, ht, eq_comm] using h

/-- There is one instance for each element, in their order, and all have the same object. -/
theorem instances_of_createsAll {c : Class} {params : Ref} {page after : Page} {nodes : List Nat}
    {made : List Instance} (h : CreatesAll c params page nodes made after) :
    made = nodes.map fun node => ⟨node, params⟩ := by
  induction h with
  | nil => rfl
  | cons hmade _ ih => rw [List.map_cons, ih, construct_ok hmade]

section
variable {c : Class} {id : String} {params : Ref} {page after : Page} {before nodes : List Nat}
  {node : Nat} {made : List Instance} {reason : String}

theorem createAll_value_ok (h : CreatesAll c params page nodes made after) :
    (createAll c id params nodes page).value = .ok made := by
  rw [(createAll_watched (η := Document) c id params nodes page).1, createAll_of_createsAll id h]

theorem createAll_value_error (rest : List Nat) (h : CreatesAll c params page before made after)
    (hfail : (c.construct node params after).value = .error reason) :
    (createAll (ι := Instance) c id params (before ++ node :: rest) page).value =
      .error (.instantiationFailed id reason) := by
  rw [(createAll_watched (η := Document) c id params _ page).1,
    createAll_of_failure id rest h hfail]

end

/-- The elements that match a selector. A selector that is rejected matches none. -/
def Page.matching (p : Page) (selector : String) : List Nat := (p.select selector).toOption.getD []

namespace Session

/-- How the load has ended that is waited for. Where none is waited for, there is none to fail. -/
def ended? (load : Option LoadId) (s : Session) : Option Outcome :=
  load.elim (some .loaded) fun id => (s.world.loads[id]?).bind Load.outcome?

/-- What the promise of a creation that is being bound is settled to, when a run of the job queue
comes to it. -/
inductive Settles (pending : Pending Document Class Value) (s : Session) : Settled → Prop
  /-- The load has failed. -/
  | unloaded {reason : String} : ended? pending.load s = some (.failed reason) →
      Settles pending s
        (.failed (LoaderError.polyfillFailed pending.handle.polyfillUrl reason).message)
  /-- An instance has been made for every element that matches now. -/
  | made {instances : List Instance} {after : Page} : ended? pending.load s = some .loaded →
      CreatesAll pending.handle.entry.factory s.world.hosts.heap.length
        (withParams s.world.hosts pending.params) (s.world.hosts.matching pending.selector)
        instances after →
      Settles pending s (.instances instances)
  /-- The constructor has thrown for one of the elements, after those before it. -/
  | refused {before rest : List Nat} {node : Nat} {instances : List Instance} {after : Page}
      {reason : String} : ended? pending.load s = some .loaded →
      s.world.hosts.matching pending.selector = before ++ node :: rest →
      CreatesAll pending.handle.entry.factory s.world.hosts.heap.length
        (withParams s.world.hosts pending.params) before instances after →
      (pending.handle.entry.factory.construct node s.world.hosts.heap.length after).value =
        .error reason →
      Settles pending s
        (.failed (LoaderError.instantiationFailed pending.handle.id reason).message)

section
variable {pending : Pending Document Class Value} {s : Session}

theorem poll_of_ended_none (h : ended? pending.load s = none) :
    (pending.poll s.world).value = none := by
  cases hload : pending.load with
  | none =>
    rw [hload] at h
    exact nomatch h
  | some id =>
    rw [hload] at h
    rw [Pending.poll_of_isOpen hload h]

theorem poll_of_ended_failed {reason : String} (h : ended? pending.load s = some (.failed reason)) :
    (pending.poll s.world).value =
      some (.error (.polyfillFailed pending.handle.polyfillUrl reason)) := by
  cases hload : pending.load with
  | none =>
    rw [hload] at h
    exact nomatch h
  | some id =>
    rw [hload] at h
    rw [Pending.poll_of_failed hload h]

theorem poll_of_ended_loaded (h : ended? pending.load s = some .loaded) :
    (pending.poll s.world).value = some
      (createAll (ι := Instance) pending.handle.entry.factory pending.handle.id
        s.world.hosts.heap.length (s.world.hosts.matching pending.selector)
        (withParams s.world.hosts pending.params)).value := by
  have hmade := (instantiate_page pending s.world.hosts).1
  cases hload : pending.load with
  | none =>
    rw [Pending.poll_of_native hload]
    exact congrArg some hmade
  | some id =>
    rw [hload] at h
    rw [Pending.poll_of_loaded hload h]
    exact congrArg some hmade

/-- A promise is settled if and only if its load has ended, or it has none to wait for. What it is
settled to is what comes of the poll. -/
theorem settles_iff {result : Settled} :
    Settles pending s result ↔ (pending.poll s.world).value.map settledBy = some result := by
  constructor
  · intro h
    cases h with
    | unloaded h =>
      rw [poll_of_ended_failed h]
      rfl
    | made h hall =>
      rw [poll_of_ended_loaded h, createAll_value_ok hall]
      rfl
    | refused h hsplit hbefore hfail =>
      rw [poll_of_ended_loaded h, hsplit, createAll_value_error _ hbefore hfail]
      rfl
  · intro h
    rcases hended : ended? pending.load s with _ | _ | reason
    · rw [poll_of_ended_none hended] at h
      exact nomatch h
    · rw [poll_of_ended_loaded hended] at h
      rcases CreatesAll.or_first_failure (ι := Instance) pending.handle.entry.factory
          s.world.hosts.heap.length (withParams s.world.hosts pending.params)
          (s.world.hosts.matching pending.selector) with
        ⟨instances, after, hall⟩ |
          ⟨before, node, rest, instances, after, reason, hsplit, hbefore, hfail⟩
      · rw [createAll_value_ok hall] at h
        obtain rfl : .instances instances = result := Option.some.inj h
        exact .made hended hall
      · rw [hsplit, createAll_value_error rest hbefore hfail] at h
        obtain rfl : .failed (LoaderError.instantiationFailed _ reason).message = result :=
          Option.some.inj h
        exact .refused hended hsplit hbefore hfail
    · rw [poll_of_ended_failed hended] at h
      obtain rfl : .failed (LoaderError.polyfillFailed _ reason).message = result :=
        Option.some.inj h
      exact .unloaded hended

theorem exists_settles_iff :
    (∃ result, Settles pending s result) ↔ (ended? pending.load s).isSome = true := by
  simp only [settles_iff]
  rcases hended : ended? pending.load s with _ | _ | reason
  · simp [poll_of_ended_none hended]
  · simp [poll_of_ended_loaded hended]
  · simp [poll_of_ended_failed hended]

theorem nodes_of_settles {instances : List Instance}
    (h : Settles pending s (.instances instances)) :
    instances.map Instance.node = s.world.hosts.matching pending.selector := by
  cases h with
  | made _ hall =>
    rw [instances_of_createsAll hall, List.map_map]
    exact List.map_id _

end

def settled? (s : Session) (place : Nat) : Option Settled :=
  (s.promises[place]?).bind Promise.settled

section
variable {s : Session} {place : Nat} {p : Promise} {result : Settled}

theorem settled?_of_promise (hp : s.promises[place]? = some p) : s.settled? place = p.settled := by
  rw [settled?, hp, Option.bind_some]

/-- A promise that has settled stays as it is, whatever a script does. -/
theorem settled?_after (h : s.settled? place = some result) (steps : List Step) :
    (s.after steps).settled? place = some result := by
  induction steps generalizing s with
  | nil => exact h
  | cons x rest ih =>
    obtain ⟨p, hp, hsettled⟩ := Option.bind_eq_some_iff.mp h
    rw [after_cons]
    apply ih
    by_cases hx : x = .run
    · subst hx
      obtain ⟨q, hq, -, hresult⟩ := run_promise hp
      rw [goOn_of_settled hsettled] at hresult
      exact (settled?_of_promise hq).trans (hresult.trans hsettled)
    · exact (settled?_of_promise (step_promise hx hp)).trans hsettled

theorem run_settles {pending : Pending Document Class Value} (hp : s.promises[place]? = some p)
    (hjob : p.job = .binding pending) (hopen : p.settled = none) :
    ∃ q, (run s).state.promises[place]? = some q ∧ q.job = .binding pending ∧
      ∀ result, q.settled = some result ↔ Settles pending (s.turn place) result := by
  obtain ⟨q, hq, hqjob, hresult⟩ := run_promise hp
  refine ⟨q, hq, hqjob.trans hjob, fun result => ?_⟩
  rw [hresult, goOn_of_open hopen, hjob, runJob_binding, settles_iff]

theorem exists_run_cons_iff {x : Step} {rest : List Step} {P : List Step → Prop} :
    (∃ before after, x :: rest = before ++ .run :: after ∧ P before) ↔
      (x = .run ∧ P []) ∨ ∃ before after, rest = before ++ .run :: after ∧ P (x :: before) := by
  constructor
  · rintro ⟨before, after, hsplit, hP⟩
    cases before with
    | nil => exact .inl ⟨(List.cons.inj hsplit).1, hP⟩
    | cons y before =>
      obtain ⟨rfl, hrest⟩ := List.cons.inj hsplit
      exact .inr ⟨before, after, hrest, hP⟩
  · rintro (⟨rfl, hP⟩ | ⟨before, after, rfl, hP⟩)
    · exact ⟨[], rest, rfl, hP⟩
    · exact ⟨x :: before, after, rfl, hP⟩

/-- The first run of the job queue that can settle an open promise settles it. -/
theorem settled?_after_iff {pending : Pending Document Class Value}
    (hp : s.promises[place]? = some p) (hjob : p.job = .binding pending) (hopen : p.settled = none)
    (steps : List Step) :
    (s.after steps).settled? place = some result ↔
      ∃ before rest, steps = before ++ .run :: rest ∧ (s.after before).settled? place = none ∧
        Settles pending ((s.after before).turn place) result := by
  have hnone : s.settled? place = none := (settled?_of_promise hp).trans hopen
  induction steps generalizing s p with
  | nil => simp [hnone]
  | cons x rest ih =>
    rw [exists_run_cons_iff, after_cons]
    by_cases hx : x = .run
    · subst hx
      obtain ⟨q, hq, hqjob, hqresult⟩ := run_settles hp hjob hopen
      have hqsettled : (step .run s).state.settled? place = q.settled := settled?_of_promise hq
      cases hr : q.settled with
      | none =>
        have hnot : ¬ Settles pending (s.turn place) result := by simp [← hqresult, hr]
        rw [or_iff_right fun h => hnot h.2.2]
        exact ih hq hqjob hr (hqsettled.trans hr)
      | some r =>
        have hstays (steps : List Step) :
            ((step .run s).state.after steps).settled? place = some r :=
          settled?_after (hqsettled.trans hr) steps
        simp [hstays, hnone, ← hqresult, hr]
    · have hp' := step_promise hx hp
      simpa [hx] using ih hp' hjob hopen ((settled?_of_promise hp').trans hopen)

end

/-- The load that an init waits for is the one that the gate keeps for the URL, be it a new one or
one that was begun before. -/
theorem current?_of_init {F V : Type} {h : Handle Document F V} {target : String}
    {overrides : Option (Params V)} {w : World Page (Option Nat)} {pending : Pending Document F V}
    (hp : (h.init target overrides w).value = .ok pending) {id : LoadId}
    (hid : pending.load = some id) :
    (h.init target overrides w).state.current? h.gate h.polyfillUrl = some id := by
  rcases Browser.init_cases h target overrides w with ⟨hv, -⟩ | ⟨hv, -⟩ | ⟨hv, hstate⟩
  · exact nomatch hp.symm.trans hv
  · obtain rfl := Except.ok.inj (hp.symm.trans hv)
    exact nomatch hid
  · obtain rfl := Except.ok.inj (hp.symm.trans hv)
    obtain rfl := Option.some.inj hid
    rw [hstate]
    exact Gate.ready_current? h.gate h.host h.polyfillUrl w

theorem init_error_iff {F V : Type} {h : Handle Document F V} {target : String}
    {overrides : Option (Params V)} {w : World Page (Option Nat)} :
    (∃ e, (h.init target overrides w).value = .error e) ↔ w.hosts.matching target = [] := by
  set asked := Host.hasMatch h.host target w.hosts with hasked
  have hmatch : asked.value = !(w.hosts.matching target).isEmpty := by
    rw [hasked, hasMatch_apply]
    rfl
  constructor
  · rintro ⟨e, he⟩
    by_contra hne
    have hm : asked.value = true := by
      rw [hmatch]
      simpa using hne
    cases hs : (Host.supportsShadowDom h.host asked.state).value with
    | true =>
      rw [Handle.init_of_native overrides hm hs] at he
      exact nomatch he
    | false =>
      rw [Handle.init_of_polyfilled overrides hm hs] at he
      exact nomatch he
  · intro hnone
    have hm : asked.value = false := by
      rw [hmatch, hnone]
      rfl
    exact ⟨_, (Handle.init_of_not_hasMatch overrides hm).1⟩

/-- What is thrown when the parameters are listed leaves an init. Where it finds no match, it gives
nothing. Else it gives a promise and leaves a creation to be bound. -/
theorem initHandle_cases (realm : Realm Value) (h : Handle Document Class Value)
    (selector params : Value) (name : String) (s : Session) :
    let began := initHandle realm h selector params name s
    (∃ target thrown, realm.kind selector = .string target ∧
      realm.paramEntries params = .error thrown ∧
      began = { value := .refused (.thrown thrown), state := s }) ∨
    (began.value = .nothing ∧ ∀ target, realm.kind selector = .string target →
      (∀ thrown, realm.paramEntries params ≠ .error thrown) ∧
        s.world.hosts.matching target = []) ∨
    ∃ target overrides pending, realm.kind selector = .string target ∧
      paramsOf realm params = .ok overrides ∧ s.world.hosts.matching target ≠ [] ∧
      (h.init target overrides s.world).value = .ok pending ∧
      began.value = .promise ∧
      began.state = { s with
        world := (h.init target overrides s.world).state
        promises := s.promises ++ [{ name, job := .binding pending }] } := by
  intro began
  by_cases hk : ∃ target, realm.kind selector = .string target
  · obtain ⟨target, hk⟩ := hk
    cases hparams : paramsOf realm params with
    | error thrown =>
      exact .inl ⟨target, thrown, hk, paramsOf_eq_error_iff.mp hparams,
        initHandle_of_thrown hk hparams⟩
    | ok overrides =>
      refine .inr ?_
      cases hp : (h.init target overrides s.world).value with
      | error e =>
        refine .inl ⟨(initHandle_of_error hk hparams hp).1, fun other hother => ⟨?_, ?_⟩⟩
        · intro thrown hthrown
          exact nomatch hparams.symm.trans (paramsOf_eq_error_iff.mpr hthrown)
        · obtain rfl : target = other := Kind.string.inj (hk.symm.trans hother)
          exact init_error_iff.mp ⟨e, hp⟩
      | ok pending =>
        refine .inr ⟨target, overrides, pending, hk, rfl, fun hnone => ?_, hp,
          initHandle_of_ok hk hparams _ hp⟩
        obtain ⟨e, he⟩ := init_error_iff.mpr hnone
        exact nomatch hp.symm.trans he
  · have hno : ∀ text, realm.kind selector ≠ .string text := fun text h => hk ⟨text, h⟩
    refine .inr (.inl ⟨?_, fun target h => absurd h (hno target)⟩)
    simp only [began, initHandle_of_no_string hno]

/-- An init throws if and only if its selector is a string and listing the parameters throws, and
then nothing has been done: no match is looked for and no promise is left. Otherwise it gives
nothing, if the selector is no string or matches no element, and else a promise. If elements cannot
have a native shadow root, the promise waits for the load that the gate keeps for the polyfill.

Whatever is done then, the promise is settled by the first run of the job queue that comes to it
when the load has ended, if it waits for one. If the load has failed, this is what it is settled to.
Else an instance has been made for every element that matches at that moment, in their order, or the
constructor has thrown for one of them. Once settled, it stays so. -/
theorem init_throws_or_settles (realm : Realm Value) (h : Handle Document Class Value)
    (selector params : Value) (name : String) (s : Session) :
    let began := initHandle realm h selector params name s
    let place := s.promises.length
    (began.value = .nothing ∨ began.value = .promise ∨
      ∃ thrown, began = { value := .refused (.thrown thrown), state := s }) ∧
    (∀ thrown, began.value = .refused (.thrown thrown) ↔
      (∃ target, realm.kind selector = .string target) ∧
        realm.paramEntries params = .error thrown) ∧
    (began.value = .nothing ↔ ∀ target, realm.kind selector = .string target →
      (∀ thrown, realm.paramEntries params ≠ .error thrown) ∧
        s.world.hosts.matching target = []) ∧
    (began.value = .promise → ∃ target overrides load,
      let pending := h.pending target overrides load
      realm.kind selector = .string target ∧ paramsOf realm params = .ok overrides ∧
      (load = none ↔ s.world.hosts.supportsShadowDom = true) ∧
      (∀ id, load = some id →
        began.state.world.current? h.gate h.polyfillUrl = some id) ∧
      (∀ v : Session,
        ((∃ result, Settles pending v result) ↔ (ended? load v).isSome = true) ∧
        ∀ instances, Settles pending v (.instances instances) →
          instances.map Instance.node = v.world.hosts.matching target) ∧
      ∀ steps : List Step,
        (∀ result, (began.state.after steps).settled? place = some result ↔
          ∃ before rest, steps = before ++ .run :: rest ∧
            (began.state.after before).settled? place = none ∧
            Settles pending ((began.state.after before).turn place) result) ∧
        ∀ more result, (began.state.after steps).settled? place = some result →
          (began.state.after (steps ++ more)).settled? place = some result) := by
  intro began place
  rcases initHandle_cases realm h selector params name s with
    ⟨target, thrown, hk, hthrown, hbegan⟩ | ⟨hvalue, hnone⟩ |
      ⟨target, overrides, pending, hk, hparams, hsome, hp, hvalue, hstate⟩
  · replace hbegan : began = _ := hbegan
    refine ⟨.inr (.inr ⟨thrown, hbegan⟩), fun other => ?_, ?_, fun h => ?_⟩
    · simp [hbegan, hk, hthrown]
    · simp [hbegan, hk, hthrown]
    · rw [hbegan] at h
      exact nomatch h
  · replace hvalue : began.value = .nothing := hvalue
    refine ⟨.inl hvalue, fun thrown => ⟨fun h => ?_, ?_⟩, ⟨fun _ => hnone, fun _ => hvalue⟩,
      fun h => nomatch hvalue.symm.trans h⟩
    · exact nomatch hvalue.symm.trans h
    · rintro ⟨⟨target, hk⟩, hthrown⟩
      exact absurd hthrown ((hnone target hk).1 thrown)
  replace hvalue : began.value = .promise := hvalue
  obtain ⟨-, hpending, hsupport, -⟩ := Handle.init_ok hp
  have hplace : began.state.promises[place]? = some { name, job := .binding pending } := by
    rw [hstate, List.getElem?_concat_length]
  refine ⟨.inr (.inl hvalue), fun thrown => ⟨fun h => ?_, ?_⟩,
    ⟨fun h => (nomatch hvalue.symm.trans h), fun hnone => absurd (hnone target hk).2 hsome⟩,
    fun _ => ⟨target, overrides, pending.load, ?_⟩⟩
  · exact nomatch hvalue.symm.trans h
  · rintro ⟨-, hthrown⟩
    exact nomatch hparams.symm.trans (paramsOf_eq_error_iff.mpr hthrown)
  rw [← hpending]
  refine ⟨hk, hparams, ?_, ?_, fun v => ⟨exists_settles_iff, fun instances hmade => ?_⟩,
    fun steps => ?_⟩
  · simp only [hasMatch_apply, supportsShadowDom_apply] at hsupport
    rw [hsupport, Option.isNone_iff_eq_none]
  · intro id hid
    rw [hstate]
    exact current?_of_init hp hid
  · have hnodes := nodes_of_settles hmade
    rwa [hpending] at hnodes
  · refine ⟨fun result => settled?_after_iff hplace rfl rfl steps, fun more result h => ?_⟩
    rw [after_append]
    exact settled?_after h more

/-- On a page without native shadow roots, an init that matches two elements. Its parameters are no
object. -/
def unsupported : Effect Session Call Answer :=
  let h : Handle Document Class Value := ⟨"id", ⟨⟨.function "made"⟩, ∅⟩, {}, pageGate, "url"⟩
  let s : Session := { world := { hosts := { nodes := [("div", [7, 8])] } } }
  initHandle (Heap.realm []) h (.string "div") (.bool true) "promise" s

/-- Nothing comes of a run of the job queue before the script element of the polyfill has fired its
event, and nothing else comes of another one after it. -/
theorem init_settled_by_load :
    unsupported.value = .promise ∧ (unsupported.state.after [.run]).settled? 0 = none ∧
      ∃ instances, instances.map Instance.node = [7, 8] ∧
        ∀ more, (unsupported.state.after ([.run, .fire 0 "onload", .run] ++ more)).settled? 0 =
          some (.instances instances) := by
  have hsettled : (unsupported.state.after [.run, .fire 0 "onload", .run]).settled? 0 =
      some (.instances [⟨7, 0⟩, ⟨8, 0⟩]) := rfl
  have hvalue : unsupported.value = .promise := rfl
  obtain ⟨-, -, -, hpromise⟩ := init_throws_or_settles (Heap.realm [])
    ⟨"id", ⟨⟨.function "made"⟩, ∅⟩, {}, pageGate, "url"⟩ (.string "div") (.bool true) "promise"
    { world := { hosts := { nodes := [("div", [7, 8])] } } }
  obtain ⟨target, overrides, load, -, -, -, -, -, hsteps⟩ := hpromise hvalue
  obtain ⟨-, hstays⟩ := hsteps [.run, .fire 0 "onload", .run]
  exact ⟨hvalue, rfl, _, rfl, fun more => hstays more _ hsettled⟩

/-- The answers of a heap in which one object has a getter that throws. -/
def guarded (heap : Heap) (ref : Ref) (message : String) : Realm Value :=
  { heap.realm with
    entries := fun v =>
      match v with
      | .object other => if other = ref then .error message else .ok (heap.entries v)
      | _ => .ok (heap.entries v) }

theorem lawful_guarded (heap : Heap) (ref : Ref) (message : String) :
    (guarded heap ref message).Lawful where
  nodup_entries v entries h := by
    have hlisted : heap.entries v = entries := by
      cases v with
      | object other =>
        by_cases hother : other = ref
        · simp [guarded, hother] at h
        · simpa [guarded, hother] using h
      | _ => exact Except.ok.inj h
    exact hlisted ▸ heap.nodup_entries v
  kind_of_get? := heap.lawful.kind_of_get?

/-- A getter breaks no law, and what it throws leaves an init that finds two matches. -/
theorem getter_throws_out_of_init :
    let realm := guarded [.plain ⟨[("a", .undefined)], by decide⟩] 0 "x"
    let h : Handle Document Class Value := ⟨"id", ⟨⟨.function "made"⟩, ∅⟩, {}, pageGate, "url"⟩
    let page : Page := { head := some (.function "attachShadow"), nodes := [("div", [7, 8])] }
    let s : Session := { world := { hosts := page } }
    realm.Lawful ∧ page.matching "div" = [7, 8] ∧
      initHandle realm h (.string "div") (.object 0) "promise" s =
        { value := .refused (.thrown "x"), state := s } :=
  ⟨lawful_guarded _ _ _, rfl, rfl⟩

end Session

end CreationLoader.Browser
