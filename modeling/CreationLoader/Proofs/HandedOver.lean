import CreationLoader.Proofs.Enumeration
import CreationLoader.Proofs.Promises

/-!
# What constructors receive

Defaults and overrides are taken from the properties of script values, merged, and set one by one
on a new object. All constructors of one init receive this object: it has the properties of the
defaults in the order in which scripts see them, each with the very value that was written.
-/

namespace CreationLoader.Browser
open Script Association

theorem toOption_eq_some {ε α : Type} {x : Except ε α} {a : α} :
    x.toOption = some a ↔ x = .ok a := by
  cases x <;> simp [Except.toOption]

section
variable {realm : Realm Value} {v : Value} {entries : List (String × Value)}

/-- Properties are listed in the order in which scripts see them. -/
def Enumerates (realm : Realm Value) : Prop :=
  ∀ v entries, realm.entries v = .ok entries → Ordered (entries.map Prod.fst)

theorem enumerates_heap (heap : Heap) : Enumerates heap.realm :=
  fun v _ h => Except.ok.inj h ▸ heap.ordered_entries v

theorem Enumerates.paramEntries (enumerates : Enumerates realm)
    (h : realm.paramEntries v = .ok entries) : Ordered (entries.map Prod.fst) := by
  unfold Realm.paramEntries at h
  split at h
  · obtain rfl := Except.ok.inj h
    exact .nil
  · exact enumerates v entries h

theorem Enumerates.defaultEntries (enumerates : Enumerates realm)
    (h : defaultEntries realm v = .ok entries) : Ordered (entries.map Prod.fst) := by
  cases hd : realm.get? v "defaults" with
  | none =>
    obtain rfl : [] = entries := by simpa [Browser.defaultEntries, hd] using h
    exact .nil
  | some given =>
    rw [Browser.defaultEntries, hd] at h
    exact enumerates.paramEntries h

/-- What is found in a registry that has been read is what the creation under the id has been
registered with. -/
theorem readRegistry_get? {σ κ : Type} (lawful : realm.Lawful) {s : σ} {r : Registry Class Value}
    (h : (readRegistry (κ := κ) realm Class.mk v s).value = .ok r) {id : String}
    {e : Entry Class Value} (he : r.get? id = some e) :
    ∃ creations creation, realm.entries v = .ok creations ∧
      creations.lookup id = some creation ∧ RegisteredAs realm Class.mk creation e := by
  rcases readRegistry_cases (κ := κ) lawful Class.mk v s with
    ⟨creations, r', -, hcreations, -, hr', hholds⟩ | ⟨-, message, herror, -⟩
  · obtain rfl : r = r' := Except.ok.inj (h.symm.trans hr')
    have hid : id ∈ r.ids := mem_names_iff.mpr ⟨e, he⟩
    rw [hholds.ids] at hid
    obtain ⟨creation, hcreation⟩ := mem_names_iff.mp hid
    obtain ⟨e', he', hregistered⟩ := hholds.get? id creation (mem_of_lookup hcreation)
    obtain rfl : e = e' := Option.some.inj (he.symm.trans he')
    exact ⟨creations, creation, hcreations, hcreation, hregistered⟩
  · exact nomatch h.symm.trans herror

theorem mergeParams_entries {η : Type} (h : Handle η Class Value)
    (overrides : Option (Params Value)) :
    (h.mergeParams overrides).params.entries = h.entry.defaults.entries.map fun e =>
      (e.1, ((overrides.getD ∅).entries.lookup e.1).getD e.2) := by
  cases overrides with
  | none =>
    have hempty : (∅ : Params Value).entries = [] := rfl
    simp [Handle.mergeParams, hempty]
  | some p => simp [Handle.mergeParams, Params.merge_entries, Params.get?]

end

theorem foldl_assign (heap : Heap) (entries : List (String × Value)) (p : Params Value) :
    entries.foldl (fun heap' e => Heap.assign heap' (.object heap.length) e.1 e.2)
        (heap ++ [.plain p]) =
      heap ++ [.plain (entries.foldl (fun p e => p.insert e.1 e.2) p)] := by
  induction entries generalizing p with
  | nil => rfl
  | cons e rest ih =>
    have hassign : Heap.assign (heap ++ [.plain p]) (.object heap.length) e.1 e.2 =
        heap ++ [.plain (p.insert e.1 e.2)] := by
      have hlt : heap.length < (heap ++ [Object.plain p]).length := by simp
      simp [Heap.assign, List.modify_eq_take_cons_drop hlt]
    rw [List.foldl_cons, hassign]
    exact ih (p.insert e.1 e.2)

theorem newParams_apply (p : Params Value) (page : Page) :
    newParams p page =
      { value := page.heap.length
        state := { page with heap := page.heap ++ [.plain p] } } := by
  have hsame : p.entries.foldl (fun p e => p.insert e.1 e.2) ∅ = p :=
    Params.ext (Params.ofList_entries p.nodup)
  simp [newParams, Heap.alloc, foldl_assign, hsame]

theorem entries_new {heap : Heap} {p : Params Value} (h : Ordered p.names) :
    Heap.entries (heap ++ [.plain p]) (.object heap.length) = p.entries := by
  simp [Heap.entries, Heap.view, Heap.object?, enumerated_of_ordered h]

theorem construct_calls (c : Class) (node : Nat) (params : Ref) (page : Page) :
    ∃ name number, (c.construct node params page).calls =
      [.construct name node params (page.heap.text (.object params)) number] := by
  obtain ⟨received, hreceive⟩ := receive_page params page
  have hcalls : (receive params page).calls = [] := by
    cases h : page.received.findIdx? (· == params) <;> simp [receive, h]
  cases ht : (c.constructor page.heap).throws.find? fun e => e.1 == node <;>
    exact ⟨(c.constructor page.heap).name, (receive params page).value,
      by simp [Class.construct, hreceive, hcalls, ht]⟩

/-- All instances are made with one object of parameters. -/
theorem createAll_construct {c : Class} {id : String} {params : Ref} {nodes : List Nat}
    {page : Page} {call : Call} (h : call ∈ (createAll c id params nodes page).calls) :
    ∃ name node text number, node ∈ nodes ∧ call = .construct name node params text number := by
  induction nodes generalizing page with
  | nil => exact nomatch h
  | cons node rest ih =>
    obtain ⟨name, number, hcalls⟩ := construct_calls c node params page
    replace hcalls : (Factory.create c node params page).calls = _ := hcalls
    cases hmade : (Factory.create c node params page).value with
    | error reason =>
      rw [createAll_of_error hmade] at h
      simp only [hcalls, List.mem_singleton] at h
      exact ⟨name, node, _, number, List.mem_cons_self, h⟩
    | ok made =>
      rw [createAll_of_ok hmade] at h
      simp only [hcalls, List.singleton_append, List.mem_cons] at h
      rcases h with h | h
      · exact ⟨name, node, _, number, List.mem_cons_self, h⟩
      · obtain ⟨name, node', text, number, hnode, hcall⟩ := ih h
        exact ⟨name, node', text, number, List.mem_cons_of_mem _ hnode, hcall⟩

def withParams (page : Page) (params : Params Value) : Page :=
  { page with heap := page.heap ++ [.plain params] }

theorem prepare_apply (c : Class) (params : Params Value) (page : Page) :
    (Factory.prepare c params : Action Page Call (Except String Ref)) page =
      { value := .ok page.heap.length, state := withParams page params } := by
  simp [Factory.prepare, newParams_apply, withParams]

section
variable (pending : Pending Document Class Value) (page : Page)

/-- The elements are looked up, and all instances are made with one new object, on which the
parameters have been set. -/
theorem instantiate_page :
    let made := createAll (ι := Instance) pending.handle.entry.factory pending.handle.id
      page.heap.length ((page.select pending.selector).toOption.getD [])
      (withParams page pending.params)
    (pending.instantiate page).value = made.value ∧
      (pending.instantiate page).calls = .querySelectorAll pending.selector :: made.calls := by
  have hargs : (Factory.prepare pending.handle.entry.factory pending.params
      (Host.queryAll pending.handle.host pending.selector page).state).value =
        .ok page.heap.length := by
    rw [queryAll_state, prepare_apply]
  rw [Pending.instantiate_of_ok hargs]
  simp [queryAll_calls, queryAll_value, prepare_apply]

end

namespace Session

theorem readAll_length {values : List (Option Json.Value)} {scope scope' : Scope}
    {given : List Value} (h : readAll scope values = .ok (given, scope')) :
    given.length = values.length := by
  induction values generalizing scope given with
  | nil =>
    obtain ⟨rfl, -⟩ := Prod.mk.inj (Except.ok.inj h)
    rfl
  | cons value rest ih =>
    have hrest {before : Scope} {v : Value}
        (h : (readAll before rest >>= fun r => .ok (v :: r.1, r.2)) = .ok (given, scope')) :
        given.length = rest.length + 1 := by
      cases hr : readAll before rest with
      | error name =>
        rw [hr] at h
        exact nomatch h
      | ok r =>
        rw [hr] at h
        obtain ⟨rfl, rfl⟩ := Prod.mk.inj (Except.ok.inj h)
        rw [List.length_cons, ih hr]
    cases value with
    | none => exact hrest h
    | some value =>
      cases hv : scope.read value with
      | error name =>
        rw [readAll, hv] at h
        exact nomatch h
      | ok v =>
        rw [readAll, hv] at h
        exact hrest h

/-- A step that inits a handle has read two values, if it gives a promise. -/
theorem step_init_promise {handle : String} {selector params : Option Json.Value} {name : String}
    {s : Session} {h : Handle Document Class Value} (hh : s.handles.lookup handle = some h)
    (hinit : (step (.init handle selector params name) s).value = .promise) :
    ∃ first given scope,
      readAll ⟨s.world.hosts.heap, s.names⟩ [selector, params] = .ok ([first, given], scope) ∧
      step (.init handle selector params name) s =
        initHandle scope.heap.realm h first given name (s.reading scope) := by
  cases hr : readAll ⟨s.world.hosts.heap, s.names⟩ [selector, params] with
  | error name =>
    rw [step, init, withValues_of_error hr] at hinit
    simp at hinit
  | ok read =>
    obtain ⟨values, scope⟩ := read
    obtain ⟨first, given, rfl⟩ := List.length_eq_two.mp (readAll_length hr)
    have hh' : (s.reading scope).handles.lookup handle = some h := hh
    refine ⟨first, given, scope, rfl, ?_⟩
    rw [step, init, withValues_of_ok hr, withHandle_of_some hh', heap_bind]
    rfl

/-- An init that gives a promise leaves the creation to be bound with the overrides laid over its
defaults. -/
theorem initHandle_promise {realm : Realm Value} {h : Handle Document Class Value}
    {selector given : Value} {name : String} {s : Session}
    (hinit : (initHandle realm h selector given name s).value = .promise) :
    ∃ target overrides load, realm.kind selector = .string target ∧
      paramsOf realm given = .ok overrides ∧
      (initHandle realm h selector given name s).state.promises = s.promises ++
        [{ name, job := .binding (h.pending target overrides load) }] := by
  by_cases hk : ∃ target, realm.kind selector = .string target
  · obtain ⟨target, hk⟩ := hk
    cases hparams : paramsOf realm given with
    | error thrown =>
      rw [initHandle_of_thrown hk hparams] at hinit
      exact nomatch hinit
    | ok overrides =>
      cases hp : (h.init target overrides s.world).value with
      | error e => exact nomatch (initHandle_of_error hk hparams hp).1.symm.trans hinit
      | ok pending =>
        obtain ⟨-, hpending, -, -⟩ := Handle.init_ok hp
        refine ⟨target, overrides, pending.load, hk, rfl, ?_⟩
        rw [← hpending]
        exact congrArg Session.promises (initHandle_of_ok hk hparams _ hp).2
  · rw [initHandle_of_no_string fun text h => hk ⟨text, h⟩] at hinit
    exact nomatch hinit

/-- A script makes a loader of a registry, gets a handle for one of its ids, and inits the handle
with some value for the parameters. Whatever is done then, either no constructor is called on
behalf of this init, or a single run of the job queue calls them all with one new object. This
object has the properties of the registered defaults, in the order in which scripts see these:
each with the value that the parameters have under the name, if they have the name, and else with
the default itself. What the values are is told by a realm for the registry, and by another one for
what the init is given, since time passes between the two. -/
theorem constructors_receive_merged_properties {realm₀ realm : Realm Value}
    (lawful₀ : realm₀.Lawful) (enumerates : Enumerates realm₀) (lawful : realm.Lawful)
    {registry config selector given : Value} {s₀ s : Session} {page : Page}
    {l : Loader Document Class Value} {h : Handle Document Class Value} {id name : String}
    (hl : (newLoader realm₀ registry config s₀).value = .ok l)
    (hc : (l.construct id page).value = .ok h)
    (hinit : (initHandle realm h selector given name s).value = .promise) :
    let begun := (initHandle realm h selector given name s).state
    ∃ creations creation factory defaults target overrides,
      realm₀.entries registry = .ok creations ∧ creations.lookup id = some creation ∧
      realm₀.get? creation "factory" = some factory ∧
      defaultEntries realm₀ creation = .ok defaults ∧
      realm.kind selector = .string target ∧ realm.paramEntries given = .ok overrides ∧
      ∀ steps : List Step, begun.callsFor s.promises.length steps = [] ∨
        ∃ before rest object, steps = before ++ .run :: rest ∧
          let now := ((begun.after before).turn s.promises.length).world.hosts
          let nodes := (now.select target).toOption.getD []
          let heap := now.heap ++ [object]
          let ref := now.heap.length
          let made := createAll (ι := Instance) (⟨factory⟩ : Class) id ref nodes
            { now with heap }
          begun.callsFor s.promises.length steps = .querySelectorAll target :: made.calls ∧
          heap.entries (.object ref) =
            defaults.map (fun e => (e.1, (overrides.lookup e.1).getD e.2)) ∧
          ∀ call ∈ made.calls, ∃ name node text number, node ∈ nodes ∧
            call = .construct name node ref text number := by
  intro begun
  obtain ⟨hregistry, -⟩ := newLoader_ok hl
  obtain ⟨rfl, hentry, -⟩ := Loader.construct_ok hc
  obtain ⟨creations, creation, hcreations, hcreation, hregistered⟩ :=
    readRegistry_get? lawful₀ hregistry hentry
  obtain ⟨factory, hread, -, hfactory⟩ := hregistered.factory
  obtain ⟨target, overrides, load, htarget, hparams, hpromises⟩ := initHandle_promise hinit
  refine ⟨creations, creation, factory, _, target, _, hcreations, hcreation, hread,
    hregistered.defaults, htarget, paramEntries_of_paramsOf lawful hparams, fun steps => ?_⟩
  let pending := h.pending target overrides load
  have hplace : begun.promises[s.promises.length]? = some { name, job := .binding pending } := by
    rw [hpromises, List.getElem?_concat_length]
  rcases callsFor_binding hplace rfl steps with hnone | ⟨before, rest, hsteps, hcalls⟩
  · exact .inl hnone
  · refine .inr ⟨before, rest, .plain pending.params, hsteps, ?_⟩
    have hentries := mergeParams_entries h overrides
    have hordered : Ordered pending.params.names := by
      have hnames := enumerates.defaultEntries hregistered.defaults
      simpa [Params.names, pending, Handle.pending, hentries, Function.comp_def] using hnames
    rw [(instantiate_page pending _).2] at hcalls
    refine ⟨?_, ?_, fun call hcall => createAll_construct hcall⟩
    · rw [hcalls, ← hfactory]
      rfl
    · rw [entries_new hordered]
      exact hentries

/-- The defaults are seen with their indices first, and so is what the constructors receive. An
override counts that is undefined, and one without a default does not. -/
theorem two_constructors_receive_same_object :
    let defaults : Object := .plain
      ⟨[("b", .string "x"), ("2", .bool true), ("1", .null)], by decide⟩
    let creation : Object := .plain
      ⟨[("factory", .function "Made"), ("defaults", .object 0)], by decide⟩
    let registry : Object := .plain ⟨[("id", .object 1)], by decide⟩
    let params : Json.Value := .object
      [("2", .object [("$undefined", .bool true)]), ("c", .bool false)]
    let page : Page :=
      { head := some (.function "attachShadow")
        nodes := [("div", [7, 8])]
        heap := [defaults, creation, registry] }
    let s₀ : Session := { world := { hosts := page } }
    ∃ l h, (newLoader page.heap.realm (.object 2) .undefined s₀).value = .ok l ∧
      (l.construct "id" page).value = .ok h ∧
      let s := { s₀ with handles := [("handle", h)] }
      let begun := (step (.init "handle" (some (.string "div")) (some params) "promise") s).state
      ∃ made heap ref, begun.callsFor 0 [.run] = .querySelectorAll "div" :: made ∧
        made.length = 2 ∧
        (∀ call ∈ made, ∃ name node text number, call = .construct name node ref text number) ∧
        Heap.entries heap (.object ref) =
          [("1", .null), ("2", .undefined), ("b", .string "x")] := by
  intro defaults creation registry params page s₀
  have hsome : ((newLoader page.heap.realm (.object 2) .undefined s₀).value.toOption.bind fun l =>
      (l.construct "id" page).value.toOption).isSome = true := by decide +kernel
  obtain ⟨h, hmade⟩ := Option.isSome_iff_exists.mp hsome
  obtain ⟨l, hl, hc⟩ := Option.bind_eq_some_iff.mp hmade
  rw [toOption_eq_some] at hl hc
  refine ⟨l, h, hl, hc, ?_⟩
  intro s begun
  have hh : s.handles.lookup "handle" = some h := rfl
  have hinit : (step (.init "handle" (some (.string "div")) (some params) "promise") s).value =
    .promise := rfl
  let overrides : Params Value := ⟨[("2", .undefined), ("c", .bool false)], by decide⟩
  have hvalues : readAll ⟨s.world.hosts.heap, s.names⟩ [some (.string "div"), some params] =
      .ok ([.string "div", .object 3], ⟨page.heap ++ [.plain overrides], []⟩) := rfl
  obtain ⟨first, given, scope, hread, hstep⟩ := step_init_promise hh hinit
  obtain ⟨hgiven, rfl⟩ := Prod.mk.inj (Except.ok.inj (hread.symm.trans hvalues))
  obtain ⟨rfl, rfl⟩ : first = .string "div" ∧ given = .object 3 := by simpa using hgiven
  have hbegun : begun = _ := congrArg Effect.state hstep
  rw [hstep] at hinit
  obtain ⟨creations, creation', factory, listed, target, entries, hcreations, hcreation, hfactory,
    hdefaults, htarget, hentries, hsteps⟩ :=
    constructors_receive_merged_properties page.heap.lawful (enumerates_heap page.heap)
      (Heap.lawful _) hl hc hinit
  obtain rfl : "div" = target := Kind.string.inj htarget
  have hplace : (s.reading ⟨page.heap ++ [.plain overrides], []⟩).promises.length = 0 := rfl
  rw [← hbegun, hplace] at hsteps
  have h1 : arrayIndex? "1" = some 1 := by decide +kernel
  have h2 : arrayIndex? "2" = some 2 := by decide +kernel
  have hb : arrayIndex? "b" = none := by decide
  have hc : arrayIndex? "c" = none := by decide
  have hid : arrayIndex? "id" = none := by decide
  obtain rfl : creations = [("id", .object 1)] := by
    refine Except.ok.inj (hcreations.symm.trans ?_)
    simp [page, registry, Heap.realm, Heap.entries, Heap.view, Heap.object?, enumerated, hid]
  obtain rfl : creation' = .object 1 := Option.some.inj (hcreation.symm.trans rfl)
  obtain rfl : factory = .function "Made" := Option.some.inj (hfactory.symm.trans rfl)
  obtain rfl : listed = [("1", .null), ("2", .bool true), ("b", .string "x")] := by
    refine Except.ok.inj (hdefaults.symm.trans ?_)
    change page.heap.realm.paramEntries (.object 0) = _
    simp [Realm.paramEntries, page, defaults, Heap.realm, Heap.kind, Heap.isFunction, Heap.entries,
      Heap.view, Heap.object?, enumerated, h1, h2, hb, List.mergeSort,
      List.MergeSort.Internal.splitInTwo]
  obtain rfl : entries = overrides.entries := by
    refine Except.ok.inj (hentries.symm.trans ?_)
    simp [Realm.paramEntries, page, overrides, Heap.realm, Heap.kind, Heap.isFunction, Heap.entries,
      Heap.view, Heap.object?, enumerated, h2, hc]
  rcases hsteps [.run] with hnone | ⟨before, rest, object, hrun, hcalls, hreceived, hconstructs⟩
  · have hnot : (begun.callsFor 0 [.run]).isEmpty = false := rfl
    replace hnone : begun.callsFor 0 [.run] = [] := hnone
    simp [hnone] at hnot
  obtain rfl : before = [] := by
    cases before with
    | nil => rfl
    | cons x xs => simp at hrun
  refine ⟨_, _, _, hcalls, ?_, ?_, hreceived.trans ?_⟩
  · rfl
  · intro call hcall
    obtain ⟨name, node, text, number, -, heq⟩ := hconstructs call hcall
    exact ⟨name, node, text, number, heq⟩
  · rfl

end Session

end CreationLoader.Browser
