import CreationLoader.Proofs.History
import CreationLoader.Proofs.Settling

/-!
# Parameters that are no object

A script may pass a primitive value for the parameters of an init. Numbers and the like show no
properties and override nothing. A string shows its characters, each under its index, and these are
laid over the defaults whose names are such indices.
-/

namespace CreationLoader
open Association

namespace Handle
variable {η σ κ ν τ φ α : Type} [Host η σ κ ν τ]

/-- What an init asks of the host and does to the gate does not depend on its overrides. They count
for the parameters of what is left to be bound, and for nothing else. -/
theorem init_overrides (h : Handle η φ α) (selector : String) (overrides : Option (Params α))
    (w : World σ τ) :
    let plain := h.init selector none w
    (h.init selector overrides w).state = plain.state ∧
      (h.init selector overrides w).calls = plain.calls ∧
      (h.init selector overrides w).value =
        plain.value.map fun p => { p with params := (h.mergeParams overrides).params } := by
  cases hm : (Host.hasMatch h.host selector w.hosts).value with
  | false =>
    rw [init_of_no_match overrides hm, init_of_no_match none hm]
    exact ⟨rfl, rfl, rfl⟩
  | true =>
    cases hs : (Host.supportsShadowDom h.host
        (Host.hasMatch h.host selector w.hosts).state).value with
    | true =>
      rw [init_of_native overrides hm hs, init_of_native none hm hs]
      exact ⟨rfl, rfl, rfl⟩
    | false =>
      rw [init_of_polyfilled overrides hm hs, init_of_polyfilled none hm hs]
      exact ⟨rfl, rfl, rfl⟩

theorem init_congr {h : Handle η φ α} {o₁ o₂ : Option (Params α)}
    (hmerge : h.mergeParams o₁ = h.mergeParams o₂) (selector : String) :
    (h.init selector o₁ : Action (World σ τ) κ _) = h.init selector o₂ := by
  unfold init
  rw [hmerge]

end Handle

namespace Script

/-- Values that are neither objects nor functions, and are not missing. -/
def Kind.isPrimitive : Kind → Bool
  | .bool | .number | .bigint | .string _ | .symbol => true
  | .undefined | .null | .function | .object => false

/-- What the primitives of a realm show: strings their characters, each under its index, and the
others nothing. -/
structure Realm.ShowsCharacters (realm : Realm Value) : Prop where
  string : ∀ v text, realm.kind v = .string text →
    ∃ characters, realm.entries v = .ok (indexed characters)
  other : ∀ v, (realm.kind v).isPrimitive = true → (∀ text, realm.kind v ≠ .string text) →
    realm.entries v = .ok []

theorem Heap.showsCharacters (heap : Heap) : heap.realm.ShowsCharacters where
  string v text h := by
    obtain rfl := (heap.kind_eq_string_iff v text).mp h
    exact ⟨_, rfl⟩
  other v h hno := by
    replace h : (heap.kind v).isPrimitive = true := h
    cases v with
    | string text => exact absurd rfl (hno text)
    | function name => simp [kind, isFunction, view, Kind.isPrimitive] at h
    | element number => simp [kind, isFunction, view, Kind.isPrimitive] at h
    | object ref =>
      cases hf : heap.isFunction (.object ref) <;> simp [kind, hf, Kind.isPrimitive] at h
    | _ => rfl

theorem Realm.ShowsCharacters.entries {realm : Realm Value} (shows : realm.ShowsCharacters)
    {v : Value} (h : (realm.kind v).isPrimitive = true) :
    ∃ characters, realm.entries v = .ok (indexed characters) ∧
      ((∀ text, realm.kind v ≠ .string text) → characters = []) := by
  by_cases hstring : ∃ text, realm.kind v = .string text
  · obtain ⟨text, htext⟩ := hstring
    obtain ⟨characters, hentries⟩ := shows.string v text htext
    exact ⟨characters, hentries, fun hno => absurd htext (hno text)⟩
  · exact ⟨[], shows.other v h fun text htext => hstring ⟨text, htext⟩, fun _ => rfl⟩

section
variable {items : List Value} {i : Nat} {v : Value}

theorem map_snd_indexed (items : List Value) : (indexed items).map Prod.snd = items := by
  rw [indexed, List.map_map]
  exact List.zipIdx_map_fst 0 items

theorem lookup_indexed (h : items[i]? = some v) : (indexed items).lookup (toString i) = some v := by
  refine lookup_of_mem ?_ (nodup_indexed items)
  exact List.mem_map.mpr ⟨(v, i), List.mk_mem_zipIdx_iff_getElem?.mpr h, rfl⟩

theorem lookup_indexed_of_ne {name : String} (h : ∀ i < items.length, name ≠ toString i) :
    (indexed items).lookup name = none := by
  apply lookup_eq_none
  rw [map_fst_indexed]
  intro hmem
  obtain ⟨i, hi, rfl⟩ := List.mem_map.mp hmem
  exact h i (List.mem_range.mp hi) rfl

/-- Defaults over which items have been laid: an item counts if there is a default whose name is its
index. -/
structure LaidOver (defaults : Params Value) (items : List Value) (p : Params Value) : Prop where
  names : p.names = defaults.names
  item : ∀ (i : Nat) (v : Value), items[i]? = some v → toString i ∈ defaults.names →
    p.get? (toString i) = some v
  default : ∀ name, (∀ i < items.length, name ≠ toString i) → p.get? name = defaults.get? name

theorem laidOver_merge (defaults : Params Value) (items : List Value) :
    LaidOver defaults items (defaults.merge (Params.ofList (indexed items))).params := by
  have hget (name : String) : (defaults.merge (Params.ofList (indexed items))).params.get? name =
      (defaults.get? name).map fun value => ((indexed items).lookup name).getD value := by
    rw [Params.merge_get?, Params.get?, Params.get?, Params.ofList_entries (nodup_indexed items)]
  refine ⟨Params.merge_names _ _, fun i v hv hmem => ?_, fun name hname => ?_⟩
  · obtain ⟨value, hvalue⟩ := Option.isSome_iff_exists.mp (Params.contains_iff.mpr hmem)
    replace hvalue : defaults.get? (toString i) = some value := hvalue
    rw [hget, hvalue, lookup_indexed hv]
    rfl
  · rw [hget, lookup_indexed_of_ne hname]
    cases defaults.get? name <;> rfl

/-- Nothing has been overridden if and only if every item says what the default of its index says
anyway. -/
theorem LaidOver.eq_iff {defaults p : Params Value} (h : LaidOver defaults items p) :
    p = defaults ↔ ∀ (i : Nat) (v value : Value), items[i]? = some v →
      defaults.get? (toString i) = some value → value = v := by
  constructor
  · rintro rfl i v value hv hvalue
    have hmem : toString i ∈ p.names :=
      Params.contains_iff.mp (Option.isSome_iff_exists.mpr ⟨_, hvalue⟩)
    exact Option.some.inj (hvalue.symm.trans (h.item i v hv hmem))
  · intro hsame
    have hget : p.get? = defaults.get? := by
      funext name
      by_cases hindex : ∀ i < items.length, name ≠ toString i
      · exact h.default name hindex
      · push Not at hindex
        obtain ⟨i, hi, rfl⟩ := hindex
        have hitem : items[i]? = some items[i] := List.getElem?_eq_getElem hi
        cases hvalue : defaults.get? (toString i) with
        | some value =>
          have hmem : toString i ∈ defaults.names :=
            Params.contains_iff.mp (Option.isSome_iff_exists.mpr ⟨_, hvalue⟩)
          rw [h.item i _ hitem hmem, hsame i _ value hitem hvalue]
        | none =>
          refine lookup_eq_none fun hmem => ?_
          have hfound : (defaults.get? (toString i)).isSome = true :=
            Params.contains_iff.mpr (h.names ▸ hmem)
          rw [hvalue] at hfound
          exact nomatch hfound
    apply Params.ext
    rw [p.entries_eq_filterMap, defaults.entries_eq_filterMap, h.names, hget]

end

end Script

namespace Browser.Session
open Script

/-- A run of the job queue that comes after some steps finds the promise at a place open and no load
to wait for any more. -/
def BindsAfter (s : Session) (place : Nat) (load : Option LoadId) (before : List Step) : Prop :=
  (s.after before).settled? place = none ∧
    ended? load ((s.after before).turn place) = some .loaded

/-- On behalf of the promise at a place, a single run of the job queue calls the constructors of a
handle, with one new object that has the parameters as its properties: the first run that finds the
load ended well, if there is one. -/
structure HandsOver (s : Session) (place : Nat) (h : Handle Document Class Value) (target : String)
    (load : Option LoadId) (params : Params Value) : Prop where
  bound : ∀ before rest, s.BindsAfter place load before →
    let now := ((s.after before).turn place).world.hosts
    let made := createAll (ι := Instance) h.entry.factory h.id now.heap.length (now.matching target)
      (withParams now params)
    s.callsFor place (before ++ .run :: rest) = .querySelectorAll target :: made.calls ∧
      ∀ call ∈ made.calls, ∃ name node text number, node ∈ now.matching target ∧
        call = .construct name node now.heap.length text number
  unbound : ∀ steps, (∀ before rest, steps = before ++ .run :: rest →
    ¬ s.BindsAfter place load before) → s.callsFor place steps = []

section
variable {pending : Pending Document Class Value} {p : Promise} {s : Session} {place : Nat}
  {before steps : List Step}

theorem poll_calls_of_ended (h : ended? pending.load s = some .loaded) :
    (pending.poll s.world).calls = (pending.instantiate s.world.hosts).calls := by
  cases hload : pending.load with
  | none => rw [Pending.poll_of_native hload]
  | some id =>
    rw [hload] at h
    rw [Pending.poll_of_loaded hload h]

theorem poll_calls_of_not_ended (h : ended? pending.load s ≠ some .loaded) :
    (pending.poll s.world).calls = [] := by
  cases hload : pending.load with
  | none => exact absurd (by rw [hload]; rfl) h
  | some id =>
    rw [hload] at h
    rcases hended : (s.world.loads[id]?).bind Load.outcome? with _ | _ | reason
    · rw [Pending.poll_of_isOpen hload hended]
    · exact absurd hended h
    · rw [Pending.poll_of_failed hload hended]

section
variable (hp : s.promises[place]? = some p) (hjob : p.job = .binding pending)
include hp hjob

theorem callsAt_of_open (hopen : p.settled = none) :
    s.callsAt place = (pending.poll (s.turn place).world).calls := by
  rw [callsAt, hp, Option.elim_some, goOn_of_open hopen, hjob, runJob_binding]

theorem run_settled_of_ended (hopen : p.settled = none)
    (h : ended? pending.load (s.turn place) = some .loaded) :
    ∃ result, (run s).state.settled? place = some result := by
  obtain ⟨q, hq, -, hresult⟩ := run_settles hp hjob hopen
  obtain ⟨result, hsettles⟩ := exists_settles_iff.mpr (by rw [h]; rfl)
  exact ⟨result, (settled?_of_promise hq).trans ((hresult result).mpr hsettles)⟩

theorem callsFor_of_bindsAfter (h : s.BindsAfter place pending.load before) (rest : List Step) :
    s.callsFor place (before ++ .run :: rest) =
      (pending.instantiate ((s.after before).turn place).world.hosts).calls := by
  obtain ⟨hnone, hended⟩ := h
  have hopen : p.settled = none := by
    cases hsettled : p.settled with
    | none => rfl
    | some result =>
      have hstays := settled?_after ((settled?_of_promise hp).trans hsettled) before
      exact nomatch hnone.symm.trans hstays
  induction before generalizing s p with
  | nil =>
    rw [after_nil] at hended ⊢
    obtain ⟨result, hsettled⟩ := run_settled_of_ended hp hjob hopen hended
    obtain ⟨q, hq, hqsettled⟩ := Option.bind_eq_some_iff.mp hsettled
    rw [List.nil_append, callsFor_run, callsAt_of_open hp hjob hopen, poll_calls_of_ended hended,
      callsFor_of_settled hq hqsettled rest, List.append_nil]
  | cons x before ih =>
    rw [after_cons] at hnone hended
    rw [List.cons_append, after_cons]
    by_cases hx : x = .run
    · subst hx
      obtain ⟨q, hq, hqjob, -⟩ := run_promise hp
      have hstill : ∀ result, (run s).state.settled? place ≠ some result := fun result hsettled =>
        nomatch hnone.symm.trans (settled?_after hsettled before)
      have hnot : ended? pending.load (s.turn place) ≠ some .loaded := fun hloaded =>
        (run_settled_of_ended hp hjob hopen hloaded).elim hstill
      rw [callsFor_run, callsAt_of_open hp hjob hopen, poll_calls_of_not_ended hnot,
        List.nil_append]
      refine ih hq (hqjob.trans hjob) hnone hended ?_
      cases hqsettled : q.settled with
      | none => rfl
      | some result => exact absurd ((settled?_of_promise hq).trans hqsettled) (hstill result)
    · rw [callsFor_of_ne hx]
      exact ih (step_promise hx hp) hjob hnone hended hopen

theorem callsFor_of_not_bindsAfter (h : ∀ before rest, steps = before ++ .run :: rest →
    ¬ s.BindsAfter place pending.load before) : s.callsFor place steps = [] := by
  induction steps generalizing s p with
  | nil => rfl
  | cons x rest ih =>
    cases hsettled : p.settled with
    | some result => exact callsFor_of_settled hp hsettled (x :: rest)
    | none =>
      have hrest : ∀ before rest', rest = before ++ .run :: rest' →
          ¬ (step x s).state.BindsAfter place pending.load before := by
        rintro before rest' rfl hbinds
        refine h (x :: before) rest' rfl ?_
        rwa [BindsAfter, after_cons]
      by_cases hx : x = .run
      · subst hx
        obtain ⟨q, hq, hqjob, -⟩ := run_promise hp
        have hnot : ended? pending.load (s.turn place) ≠ some .loaded := fun hloaded =>
          h [] rest rfl ⟨(settled?_of_promise hp).trans hsettled, hloaded⟩
        rw [callsFor_run, callsAt_of_open hp hjob hsettled, poll_calls_of_not_ended hnot,
          List.nil_append]
        exact ih hq (hqjob.trans hjob) hrest
      · rw [callsFor_of_ne hx]
        exact ih (step_promise hx hp) hjob hrest

theorem handsOver_of_promise :
    s.HandsOver place pending.handle pending.selector pending.load pending.params where
  bound before rest h := by
    rw [callsFor_of_bindsAfter hp hjob h rest, (instantiate_page pending _).2]
    exact ⟨rfl, fun call hcall => createAll_construct hcall⟩
  unbound steps h := callsFor_of_not_bindsAfter hp hjob h

end

end

section
variable {realm : Realm Value} {h : Handle Document Class Value} {selector given absent : Value}
  {target : String}

/-- Whatever the parameters are, an init does to the page what it does without them, and leaves the
creation to be bound with what they are merged to. -/
theorem initHandle_of_plain (hselector : realm.kind selector = .string target) {s : Session}
    {load : Option LoadId} (hplain : (h.init (κ := Call) (ν := Nat) target none s.world).value =
      .ok (h.pending target none load)) {overrides : Option (Params Value)}
    (hgiven : paramsOf realm given = .ok overrides) (name : String) :
    let begun := initHandle realm h selector given name s
    let plain := h.init (κ := Call) (ν := Nat) target none s.world
    begun.value = .promise ∧ begun.calls = plain.calls ∧
      begun.state = { s with
        world := plain.state
        promises := s.promises ++
          [{ name, job := .binding (h.pending target overrides load) }] } ∧
      begun.state.HandsOver s.promises.length h target load
        (h.mergeParams overrides).params := by
  intro begun plain
  obtain ⟨hworld, hcalls, hvalue⟩ :=
    h.init_overrides (κ := Call) (ν := Nat) target overrides s.world
  rw [hplain] at hvalue
  replace hvalue : (h.init (κ := Call) (ν := Nat) target overrides s.world).value =
    .ok (h.pending target overrides load) := hvalue
  obtain ⟨hpromise, hstate⟩ := initHandle_of_ok hselector hgiven name hvalue
  have hasked : begun.calls = plain.calls := by
    rw [← hcalls]
    simp [begun, initHandle, hselector, hgiven, onWorld, promise, hvalue]
  have hplace : begun.state.promises[s.promises.length]? =
      some { name, job := .binding (h.pending target overrides load) } := by
    rw [hstate, List.getElem?_concat_length]
  exact ⟨hpromise, hasked, by rw [hstate, hworld], handsOver_of_promise hplace rfl⟩

theorem paramsOf_of_undefined (habsent : realm.kind absent = .undefined) :
    paramsOf realm absent = .ok none := by
  rw [paramsOf, habsent]

theorem paramsOf_of_primitive (hgiven : (realm.kind given).isPrimitive = true) :
    paramsOf realm given =
      (realm.entries given).map fun entries => some (Params.ofList entries) := by
  cases hk : realm.kind given with
  | undefined => simp [hk, Kind.isPrimitive] at hgiven
  | null => simp [hk, Kind.isPrimitive] at hgiven
  | _ => simp only [paramsOf, hk]

theorem exists_pending_of_matching (h : Handle Document Class Value) {s : Session}
    (hmatch : s.world.hosts.matching target ≠ []) :
    ∃ load, (h.init (κ := Call) (ν := Nat) target none s.world).value =
        .ok (h.pending target none load) ∧
      (load = none ↔ s.world.hosts.supportsShadowDom = true) := by
  cases hp : (h.init (κ := Call) (ν := Nat) target none s.world).value with
  | error e => exact absurd (init_error_iff.mp ⟨e, hp⟩) hmatch
  | ok pending =>
    obtain ⟨-, hpending, hsupport, -⟩ := Handle.init_ok hp
    simp only [hasMatch_apply, supportsShadowDom_apply] at hsupport
    exact ⟨pending.load, congrArg _ hpending, by rw [hsupport, Option.isNone_iff_eq_none]⟩

/-- An init that is given a primitive for the parameters does what it does without any, as far as
the page can tell, and the same constructors are called at the same moment. Without parameters they
receive the defaults. If the primitive is a string, its characters are laid over these, and the
defaults are received as they are if and only if no character differs from a default whose name is
its index. If it is no string, the inits do not differ at all. -/
theorem primitive_overrides_by_characters (shows : realm.ShowsCharacters)
    (hselector : realm.kind selector = .string target)
    (hgiven : (realm.kind given).isPrimitive = true) (habsent : realm.kind absent = .undefined)
    (name : String) {s : Session} (hmatch : s.world.hosts.matching target ≠ []) :
    let begun := initHandle realm h selector given name s
    let plain := initHandle realm h selector absent name s
    let place := s.promises.length
    begun.value = .promise ∧ plain.value = .promise ∧ begun.calls = plain.calls ∧
      begun.state.world = plain.state.world ∧
    ∃ load characters received,
      (load = none ↔ s.world.hosts.supportsShadowDom = true) ∧
      plain.state.HandsOver place h target load h.entry.defaults ∧
      begun.state.HandsOver place h target load received ∧
      realm.entries given = .ok (indexed characters) ∧
      LaidOver h.entry.defaults characters received ∧
      (received = h.entry.defaults ↔ ∀ (i : Nat) (v value : Value), characters[i]? = some v →
        h.entry.defaults.get? (toString i) = some value → value = v) ∧
      (received = h.entry.defaults → begun.state = plain.state) ∧
      ((∀ text, realm.kind given ≠ .string text) → begun = plain) := by
  intro begun plain place
  obtain ⟨characters, hcharacters, hnone⟩ := shows.entries hgiven
  let overrides : Params Value := Params.ofList (indexed characters)
  have hparams : paramsOf realm given = .ok (some overrides) := by
    rw [paramsOf_of_primitive hgiven, hcharacters]
    rfl
  have hplain := paramsOf_of_undefined habsent
  obtain ⟨load, hp, hsupport⟩ := exists_pending_of_matching h hmatch
  obtain ⟨hpromise, hcalls, hstate, hover⟩ := initHandle_of_plain hselector hp hparams name
  obtain ⟨hpromise', hcalls', hstate', hover'⟩ := initHandle_of_plain hselector hp hplain name
  have hlaid : LaidOver h.entry.defaults characters (h.mergeParams (some overrides)).params :=
    laidOver_merge h.entry.defaults characters
  refine ⟨hpromise, hpromise', hcalls.trans hcalls'.symm, ?_, load, characters, _, hsupport, hover',
    hover, hcharacters, hlaid, hlaid.eq_iff, fun hsame => ?_, fun hno => ?_⟩
  · rw [hstate, hstate']
  · rw [hstate, hstate', Handle.pending, hsame]
    rfl
  · have hsame : h.mergeParams (some overrides) = h.mergeParams none := by
      simp only [overrides, hnone hno]
      rfl
    simp only [begun, plain, initHandle, hselector, hparams, hplain, Handle.init_congr hsame]

/-- A creation with a default whose name is an index, and one whose name is none. -/
def numbered : Handle Document Class Value :=
  ⟨"id", ⟨⟨.function "Made"⟩, ⟨[("b", .bool true), ("1", .string "a")], by decide⟩⟩, {}, pageGate,
    "url"⟩

def supported : Session :=
  { world := { hosts := { head := some (.function "attachShadow"), nodes := [("div", [7])] } } }

/-- Of two characters, the second has a default, and is received instead of it. -/
theorem second_character_overrides :
    let begun :=
      initHandle (Heap.realm []) numbered (.string "div") (.string "xy") "promise" supported
    begun.value = .promise ∧ ∃ load received,
      begun.state.HandsOver 0 numbered "div" load received ∧ received.names = ["b", "1"] ∧
      received.get? "1" = some (.string "y") ∧ received.get? "b" = some (.bool true) := by
  intro begun
  have hselector : (Heap.realm []).kind (.string "div") = .string "div" := rfl
  have hgiven : ((Heap.realm []).kind (.string "xy")).isPrimitive = true := rfl
  have habsent : (Heap.realm []).kind .undefined = .undefined := rfl
  have hmatch : supported.world.hosts.matching "div" ≠ [] := by decide
  obtain ⟨hpromise, -, -, -, load, characters, received, -, -, hover, hcharacters, hlaid, -⟩ :=
    primitive_overrides_by_characters (h := numbered) (Heap.showsCharacters []) hselector hgiven
      habsent "promise" hmatch
  obtain rfl : characters = [.string "x", .string "y"] := by
    rw [← map_snd_indexed characters, ← Except.ok.inj hcharacters]
    rfl
  refine ⟨hpromise, load, received, hover, hlaid.names, hlaid.item 1 _ rfl (by decide),
    hlaid.default "b" ?_⟩
  intro i hi
  have hi : i = 0 ∨ i = 1 := by
    simp at hi
    omega
  rcases hi with rfl | rfl <;> decide

/-- So a primitive can make a difference to the constructors. -/
theorem string_is_received_instead_of_default :
    (Heap.kind [] (.string "xy")).isPrimitive = true ∧
    (initHandle (Heap.realm []) numbered (.string "div") .undefined "promise"
      supported).state.callsFor 0 [.run] =
        [.querySelectorAll "div",
          .construct "Made" 7 0 "\x7b\"1\":\"a\",\"b\":true\x7d" 0] ∧
    (initHandle (Heap.realm []) numbered (.string "div") (.string "xy") "promise"
      supported).state.callsFor 0 [.run] =
        [.querySelectorAll "div",
          .construct "Made" 7 0 "\x7b\"1\":\"y\",\"b\":true\x7d" 0] := by
  refine ⟨rfl, ?_, ?_⟩ <;> decide +kernel

end

end Browser.Session

end CreationLoader
