import CreationLoader.Browser.Decode
import CreationLoader.Proofs.Enumeration
import CreationLoader.Proofs.MergeLaws

/-!
# Registries that scripts hand over

The entries of an object are registered one after the other, up to the first that is no creation
or whose defaults throw when they are listed. No id is taken when it comes up: the names still to
come are never among those that have been registered, so that a registration is never refused.
-/

namespace CreationLoader

namespace Script

/-- What scripts can rely on: no property is listed twice, and only objects and functions have
properties that can be read. -/
structure Realm.Lawful {ν : Type} (realm : Realm ν) : Prop where
  nodup_entries : ∀ v entries, realm.entries v = .ok entries → (entries.map Prod.fst).Nodup
  kind_of_get? : ∀ v name value, realm.get? v name = some value →
    realm.kind v = .object ∨ realm.kind v = .function

/-- What a value shows as parameters: its own properties, or nothing if it is undefined or null. -/
def Realm.paramEntries {ν : Type} (realm : Realm ν) (v : ν) : Except String (List (String × ν)) :=
  if realm.kind v = .undefined ∨ realm.kind v = .null then .ok [] else realm.entries v

namespace Heap

theorem kind_eq_string_iff (heap : Heap) (v : Value) (text : String) :
    heap.kind v = .string text ↔ v = .string text := by
  cases v with
  | object ref => cases h : heap.isFunction (.object ref) <;> simp [kind, h]
  | _ => simp [kind, isFunction, view]

theorem lawful (heap : Heap) : heap.realm.Lawful where
  nodup_entries v entries h := Except.ok.inj h ▸ heap.nodup_entries v
  kind_of_get? v name value h := by
    replace h : heap.get? v name = some value := h
    change heap.kind v = .object ∨ heap.kind v = .function
    cases hk : heap.kind v <;> simp [get?, hk] at h <;> simp

end Heap

end Script

namespace Browser
open Script

section
variable {σ κ ν F : Type} (realm : Realm ν) (make : ν → F)

/-- An object or a function whose property `factory` can be called. -/
def IsCreation (v : ν) : Prop :=
  (realm.kind v = .object ∨ realm.kind v = .function) ∧
    ∃ factory, realm.get? v "factory" = some factory ∧ realm.kind factory = .function

/-- What the property `defaults` of a value shows as parameters. If it cannot be read, it is as good
as none. -/
def defaultEntries (v : ν) : Except String (List (String × ν)) :=
  (realm.get? v "defaults").elim (.ok []) realm.paramEntries

/-- A creation whose defaults can be listed. -/
def IsRegistrable (v : ν) : Prop :=
  IsCreation realm v ∧ ∃ entries, defaultEntries realm v = .ok entries

/-- What a creation is registered with: its own factory, and what its defaults show. -/
structure RegisteredAs (v : ν) (e : Entry F ν) : Prop where
  factory : ∃ factory, realm.get? v "factory" = some factory ∧ realm.kind factory = .function ∧
    e.factory = make factory
  defaults : defaultEntries realm v = .ok e.defaults.entries

/-- An entry of an object, and what it adds to a registry. -/
def Registers (e : String × ν) (added : String × Entry F ν) : Prop :=
  e.1 = added.1 ∧ RegisteredAs realm make e.2 added.2

/-- A registry that holds the entries of an object: under the same ids in the same order, each with
what it is registered with. -/
structure HoldsCreations (entries : List (String × ν)) (r : Registry F ν) : Prop where
  ids : r.ids = entries.map Prod.fst
  get? : ∀ id creation, (id, creation) ∈ entries →
    ∃ e, r.get? id = some e ∧ RegisteredAs realm make creation e

end

section
variable {σ κ ν F : Type} {realm : Realm ν} {make : ν → F} {v : ν} {s : σ}

theorem paramsOf_entries (lawful : realm.Lawful) (v : ν) :
    (paramsOf realm v).map (fun p => (p.getD ∅).entries) = realm.paramEntries v := by
  by_cases hnone : realm.kind v = .undefined ∨ realm.kind v = .null
  · rw [Realm.paramEntries, if_pos hnone]
    rcases hnone with hk | hk <;> simp [paramsOf, hk] <;> rfl
  · have hread : paramsOf realm v =
        (realm.entries v).map fun entries => some (Params.ofList entries) := by
      cases hk : realm.kind v <;> simp_all [paramsOf]
    rw [Realm.paramEntries, if_neg hnone, hread]
    cases hentries : realm.entries v with
    | error thrown => rfl
    | ok entries =>
      exact congrArg Except.ok (Params.ofList_entries (lawful.nodup_entries v entries hentries))

theorem paramEntries_of_paramsOf (lawful : realm.Lawful) {p : Option (Params ν)}
    (h : paramsOf realm v = .ok p) : realm.paramEntries v = .ok (p.getD ∅).entries := by
  rw [← paramsOf_entries lawful, h]
  rfl

theorem paramsOf_eq_error_iff {thrown : String} :
    paramsOf realm v = .error thrown ↔ realm.paramEntries v = .error thrown := by
  cases hk : realm.kind v <;> cases he : realm.entries v <;>
    simp [paramsOf, Realm.paramEntries, Except.map, hk, he]

theorem defaultsOf_entries (lawful : realm.Lawful) (v : ν) :
    (defaultsOf realm v).map (fun p => (p.getD ∅).entries) = defaultEntries realm v := by
  cases hd : realm.get? v "defaults" with
  | none => simp only [defaultsOf, defaultEntries, hd]; rfl
  | some given =>
    simp only [defaultsOf, defaultEntries, hd]
    exact paramsOf_entries lawful given

theorem exists_entries_of_thrown {thrown : String} (h : defaultEntries realm v = .error thrown) :
    ∃ u, realm.entries u = .error thrown := by
  cases hd : realm.get? v "defaults" with
  | none => simp [defaultEntries, hd] at h
  | some given =>
    refine ⟨given, ?_⟩
    simp only [defaultEntries, hd, Option.elim_some, Realm.paramEntries] at h
    split at h
    · exact nomatch h
    · exact h

theorem creationOf_of_not_isCreation (lawful : realm.Lawful) (h : ¬ IsCreation realm v) :
    creationOf realm v = .ok none := by
  cases hf : realm.get? v "factory" with
  | none => simp [creationOf, hf]
  | some factory =>
    have hno : realm.kind factory ≠ .function := fun hcallable =>
      h ⟨lawful.kind_of_get? v "factory" factory hf, factory, hf, hcallable⟩
    simp [creationOf, hf, hno]

theorem creationOf_of_factory {factory : ν} (hf : realm.get? v "factory" = some factory)
    (hcallable : realm.kind factory = .function) :
    creationOf realm v =
      (defaultsOf realm v).map fun defaults => some (factory, defaults.getD ∅) := by
  simp [creationOf, hf, hcallable]

theorem creationOf_of_thrown (lawful : realm.Lawful) (h : IsCreation realm v) {thrown : String}
    (hthrown : defaultEntries realm v = .error thrown) : creationOf realm v = .error thrown := by
  obtain ⟨-, factory, hf, hcallable⟩ := h
  rw [creationOf_of_factory hf hcallable]
  rw [← defaultsOf_entries lawful] at hthrown
  cases hd : defaultsOf realm v with
  | error message =>
    rw [hd] at hthrown
    exact congrArg Except.error (Except.error.inj hthrown)
  | ok defaults =>
    rw [hd] at hthrown
    exact nomatch hthrown

theorem creationOf_of_isRegistrable (lawful : realm.Lawful) (make : ν → F)
    (h : IsRegistrable realm v) :
    ∃ c, creationOf realm v = .ok (some c) ∧ RegisteredAs realm make v ⟨make c.1, c.2⟩ := by
  obtain ⟨⟨-, factory, hf, hcallable⟩, entries, hentries⟩ := h
  have hshown := defaultsOf_entries lawful v
  rw [creationOf_of_factory hf hcallable]
  cases hd : defaultsOf realm v with
  | error message =>
    rw [hd, hentries] at hshown
    exact nomatch hshown
  | ok defaults =>
    rw [hd] at hshown
    exact ⟨(factory, defaults.getD ∅), rfl, ⟨factory, hf, hcallable, rfl⟩, hshown.symm⟩

variable {r : Registry F ν} {id : String} {entries : List (String × ν)}

theorem registerAll_of_none (rest : List (String × ν)) (h : creationOf realm v = .ok none) :
    (registerAll (κ := κ) realm make r ((id, v) :: rest) s).value =
      .error ("Invalid registry: creation " ++ id ++ " has no factory") := by
  simp [registerAll, h]

theorem registerAll_of_error (rest : List (String × ν)) {thrown : String}
    (h : creationOf realm v = .error thrown) :
    (registerAll (κ := κ) realm make r ((id, v) :: rest) s).value = .error thrown := by
  simp [registerAll, h]

theorem registerAll_of_some (rest : List (String × ν)) {c : ν × Params ν}
    (h : creationOf realm v = .ok (some c)) (hid : id ∉ r.ids) :
    ∃ r' : Registry F ν, r'.entries = r.entries ++ [(id, ⟨make c.1, c.2⟩)] ∧
      (registerAll (κ := κ) realm make r ((id, v) :: rest) s).value =
        (registerAll (κ := κ) realm make r' rest s).value := by
  obtain ⟨r', hr'⟩ := (r.register_eq_ok_iff id (make c.1) c.2).mpr hid
  refine ⟨r', ?_, ?_⟩
  · unfold Registry.register at hr'
    rw [dif_neg hid] at hr'
    rw [← Except.ok.inj hr']
  · simp [registerAll, h, Registry.registerReporting, hr']

/-- Neither have two names still to come been the same, nor has one been registered. This is so at
first, and stays so. -/
def Untaken (r : Registry F ν) (entries : List (String × ν)) : Prop :=
  (r.ids ++ entries.map Prod.fst).Nodup

theorem Untaken.not_mem {rest : List (String × ν)} (h : Untaken r ((id, v) :: rest)) :
    id ∉ r.ids :=
  fun hid => (List.nodup_append.mp h).2.2 id hid id (by simp) rfl

theorem Untaken.next {rest : List (String × ν)} (h : Untaken r ((id, v) :: rest)) {e : Entry F ν}
    {r' : Registry F ν} (hr' : r'.entries = r.entries ++ [(id, e)]) : Untaken r' rest := by
  have hids : r'.ids = r.ids ++ [id] := by simp [Registry.ids, hr']
  simpa [Untaken, hids] using h

/-- Creations whose defaults can be listed are all registered, and what follows them comes up. -/
theorem registerAll_append (lawful : realm.Lawful) (make : ν → F) {before rest : List (String × ν)}
    (hnew : Untaken r (before ++ rest)) (h : ∀ e ∈ before, IsRegistrable realm e.2) :
    ∃ (r' : Registry F ν) (added : List (String × Entry F ν)),
      r'.entries = r.entries ++ added ∧ List.Forall₂ (Registers realm make) before added ∧
      (registerAll (κ := κ) realm make r (before ++ rest) s).value =
        (registerAll (κ := κ) realm make r' rest s).value := by
  induction before generalizing r with
  | nil => exact ⟨r, [], (List.append_nil _).symm, .nil, rfl⟩
  | cons e before ih =>
    obtain ⟨id, v⟩ := e
    obtain ⟨hv, hbefore⟩ := List.forall_mem_cons.mp h
    obtain ⟨c, hc, hregistered⟩ := creationOf_of_isRegistrable lawful make hv
    obtain ⟨r₁, hr₁, hvalue⟩ :=
      registerAll_of_some (κ := κ) (s := s) (before ++ rest) hc hnew.not_mem
    obtain ⟨r', added, hr', hadded, hrest⟩ := ih (hnew.next hr₁) hbefore
    refine ⟨r', (id, ⟨make c.1, c.2⟩) :: added, ?_, .cons ⟨rfl, hregistered⟩ hadded,
      hvalue.trans hrest⟩
    rw [hr', hr₁, List.append_assoc, List.singleton_append]

/-- Reading a registry reports what is registered and changes nothing. -/
theorem registerAll_state (realm : Realm ν) (make : ν → F) (r : Registry F ν)
    (entries : List (String × ν)) (s : σ) :
    (registerAll (κ := κ) realm make r entries s).state = s := by
  induction entries generalizing r with
  | nil => rfl
  | cons e rest ih =>
    obtain ⟨id, v⟩ := e
    rcases hc : creationOf realm v with _ | _ | c
    · simp [registerAll, hc]
    · simp [registerAll, hc]
    · cases hr : r.register id (make c.1) c.2 with
      | error e => simp [registerAll, hc, Registry.registerReporting, hr]
      | ok r' => simp [registerAll, hc, Registry.registerReporting, hr, ih]

theorem readRegistry_state (realm : Realm ν) (make : ν → F) (v : ν) (s : σ) :
    (readRegistry (κ := κ) realm make v s).state = s := by
  cases hv : realm.kind v <;> cases he : realm.entries v <;>
    simp [readRegistry, hv, he, registerAll_state]

theorem names_of_registers {added : List (String × Entry F ν)}
    (h : List.Forall₂ (Registers realm make) entries added) :
    added.map Prod.fst = entries.map Prod.fst := by
  induction h with
  | nil => rfl
  | cons hx _ ih => rw [List.map_cons, List.map_cons, ih, hx.1]

theorem exists_of_registers {added : List (String × Entry F ν)}
    (h : List.Forall₂ (Registers realm make) entries added) {creation : ν}
    (hmem : (id, creation) ∈ entries) :
    ∃ e, (id, e) ∈ added ∧ RegisteredAs realm make creation e := by
  induction h with
  | nil => exact nomatch hmem
  | @cons e x rest others hx _ ih =>
    rcases List.mem_cons.mp hmem with rfl | hmem
    · obtain ⟨rfl, hregistered⟩ := hx
      exact ⟨x.2, List.mem_cons_self, hregistered⟩
    · obtain ⟨e, hadded, hregistered⟩ := ih hmem
      exact ⟨e, List.mem_cons_of_mem x hadded, hregistered⟩

theorem readRegistry_of_no_object (hv : realm.kind v ≠ .object) :
    (readRegistry (κ := κ) realm make v s).value =
      .error "Invalid registry: expected an object" := by
  cases hk : realm.kind v <;> simp_all [readRegistry]

section
variable (hv : realm.kind v = .object)
include hv

theorem readRegistry_of_thrown {thrown : String} (h : realm.entries v = .error thrown) :
    (readRegistry (κ := κ) realm make v s).value = .error thrown := by
  simp [readRegistry, hv, h]

/-- Registering comes to what stands behind creations whose defaults can be listed. -/
theorem readRegistry_append (lawful : realm.Lawful) (make : ν → F) {before rest : List (String × ν)}
    (h : realm.entries v = .ok (before ++ rest))
    (hbefore : ∀ e ∈ before, IsRegistrable realm e.2) :
    ∃ r : Registry F ν, List.Forall₂ (Registers realm make) before r.entries ∧
      (readRegistry (κ := κ) realm make v s).value =
        (registerAll (κ := κ) realm make r rest s).value := by
  have hnew : Untaken (∅ : Registry F ν) (before ++ rest) := lawful.nodup_entries v _ h
  obtain ⟨r, added, hr, hadded, hvalue⟩ :=
    registerAll_append (κ := κ) (s := s) lawful make hnew hbefore
  obtain rfl : r.entries = added := hr
  exact ⟨r, hadded, by simpa [readRegistry, hv, h] using hvalue⟩

theorem readRegistry_of_registrable (lawful : realm.Lawful) (h : realm.entries v = .ok entries)
    (hall : ∀ e ∈ entries, IsRegistrable realm e.2) :
    ∃ r, (readRegistry (κ := κ) realm make v s).value = .ok r ∧
      HoldsCreations realm make entries r := by
  rw [← List.append_nil entries] at h
  obtain ⟨r, hadded, hvalue⟩ :=
    readRegistry_append (κ := κ) (s := s) hv lawful make h hall
  refine ⟨r, hvalue, names_of_registers hadded, fun id creation hmem => ?_⟩
  obtain ⟨e, he, hregistered⟩ := exists_of_registers hadded hmem
  exact ⟨e, Association.lookup_of_mem he r.nodup, hregistered⟩

section
variable {before after : List (String × ν)} {bad : ν}

theorem readRegistry_of_no_factory (lawful : realm.Lawful)
    (h : realm.entries v = .ok (before ++ (id, bad) :: after))
    (hbefore : ∀ e ∈ before, IsRegistrable realm e.2) (hbad : ¬ IsCreation realm bad) :
    (readRegistry (κ := κ) realm make v s).value =
      .error ("Invalid registry: creation " ++ id ++ " has no factory") := by
  obtain ⟨r, -, hvalue⟩ := readRegistry_append (κ := κ) (s := s) hv lawful make h hbefore
  exact hvalue.trans (registerAll_of_none after (creationOf_of_not_isCreation lawful hbad))

theorem readRegistry_of_thrown_defaults (lawful : realm.Lawful)
    (h : realm.entries v = .ok (before ++ (id, bad) :: after))
    (hbefore : ∀ e ∈ before, IsRegistrable realm e.2) (hbad : IsCreation realm bad)
    {thrown : String} (hthrown : defaultEntries realm bad = .error thrown) :
    (readRegistry (κ := κ) realm make v s).value = .error thrown := by
  obtain ⟨r, -, hvalue⟩ := readRegistry_append (κ := κ) (s := s) hv lawful make h hbefore
  exact hvalue.trans (registerAll_of_error after (creationOf_of_thrown lawful hbad hthrown))

end

end

/-- Of what is no creation that can be registered, either the factory is missing, or the defaults
throw. -/
theorem not_isRegistrable_iff : ¬ IsRegistrable realm v ↔
    ¬ IsCreation realm v ∨
      IsCreation realm v ∧ ∃ thrown, defaultEntries realm v = .error thrown := by
  by_cases hv : IsCreation realm v
  · cases hd : defaultEntries realm v <;> simp [IsRegistrable, hv, hd]
  · simp [IsRegistrable, hv]

open Classical in
/-- There is no other way. -/
theorem readRegistry_cases (lawful : realm.Lawful) (make : ν → F) (v : ν) (s : σ) :
    let read := (readRegistry (κ := κ) realm make v s).value
    (∃ entries r, realm.kind v = .object ∧ realm.entries v = .ok entries ∧
      (∀ e ∈ entries, IsRegistrable realm e.2) ∧ read = .ok r ∧
      HoldsCreations realm make entries r) ∨
    (¬ (realm.kind v = .object ∧ ∃ entries, realm.entries v = .ok entries ∧
      ∀ e ∈ entries, IsRegistrable realm e.2) ∧
    ∃ message, read = .error message ∧
      (message = "Invalid registry: expected an object" ∨
        (∃ id, message = "Invalid registry: creation " ++ id ++ " has no factory") ∨
        ∃ u, realm.entries u = .error message)) := by
  intro read
  by_cases hv : realm.kind v = .object
  · cases hentries : realm.entries v with
    | error thrown =>
      exact .inr ⟨by simp, thrown, readRegistry_of_thrown hv hentries, .inr (.inr ⟨v, hentries⟩)⟩
    | ok entries =>
      cases hfind : entries.find? fun e => decide (¬ IsRegistrable realm e.2) with
      | none =>
        have hall : ∀ e ∈ entries, IsRegistrable realm e.2 := by
          simpa using List.find?_eq_none.mp hfind
        obtain ⟨r, hr, hholds⟩ := readRegistry_of_registrable hv lawful hentries hall
        exact .inl ⟨entries, r, hv, rfl, hall, hr, hholds⟩
      | some e =>
        obtain ⟨hbad, before, after, rfl, hbefore⟩ := List.find?_eq_some_iff_append.mp hfind
        replace hbad : ¬ IsRegistrable realm e.2 := by simpa using hbad
        replace hbefore : ∀ e ∈ before, IsRegistrable realm e.2 := by simpa using hbefore
        refine .inr ⟨?_, ?_⟩
        · rintro ⟨-, listed, hlisted, hall⟩
          obtain rfl := Except.ok.inj hlisted
          exact hbad (hall e (by simp))
        · rcases not_isRegistrable_iff.mp hbad with hbad | ⟨hbad, thrown, hthrown⟩
          · exact ⟨_, readRegistry_of_no_factory hv lawful hentries hbefore hbad,
              .inr (.inl ⟨e.1, rfl⟩)⟩
          · refine ⟨thrown, readRegistry_of_thrown_defaults hv lawful hentries hbefore hbad hthrown,
              .inr (.inr ?_)⟩
            exact exists_entries_of_thrown hthrown
  · exact .inr ⟨fun h => hv h.1, _, readRegistry_of_no_object hv, .inl rfl⟩

end

theorem append_ne_of_head {start a b : String} {c d : Char} (ha : a.toList.head? = some c)
    (hb : b.toList.head? = some d) (h : c ≠ d) : start ++ a ≠ start ++ b := by
  intro heq
  have hlists := congrArg String.toList heq
  simp only [String.toList_append, List.append_cancel_left_eq] at hlists
  rw [hlists, hb] at ha
  exact h (Option.some.inj ha).symm

theorem duplicate_ne_no_object (id : String) :
    "Invalid registry: expected an object" ≠
      "Invalid registry: " ++ (RegistryError.duplicate id).message := by
  have hsplit : "Invalid registry: expected an object" =
      "Invalid registry: " ++ "expected an object" := by decide
  rw [hsplit]
  exact append_ne_of_head (c := 'e') (d := 'C') rfl (by simp [RegistryError.message]) (by decide)

theorem duplicate_ne_no_factory (id other : String) :
    "Invalid registry: creation " ++ other ++ " has no factory" ≠
      "Invalid registry: " ++ (RegistryError.duplicate id).message := by
  have hsplit : "Invalid registry: creation " ++ other ++ " has no factory" =
      "Invalid registry: " ++ ("creation " ++ (other ++ " has no factory")) := by
    simp [← String.append_assoc]
  rw [hsplit]
  exact append_ne_of_head (c := 'c') (d := 'C') (by simp) (by simp [RegistryError.message])
    (by decide)

/-- A registry is read from an object of which every entry is a creation whose defaults can be
listed, and from nothing else. It holds the creations under the names of the entries, in their
order, each with its own factory and with what stands in its defaults. Otherwise the message is
about the value, if it is no object, or else about the first entry that cannot be registered,
whatever the entries behind it are; what a getter throws is passed on. The message never says that
an id has been registered already, unless a getter says so. -/
theorem readRegistry_iff_creations {σ κ ν F : Type} {realm : Realm ν} (lawful : realm.Lawful)
    (make : ν → F) (v : ν) (s : σ) :
    let read := (readRegistry (κ := κ) realm make v s).value
    ((∃ r, read = .ok r) ↔ realm.kind v = .object ∧ ∃ entries, realm.entries v = .ok entries ∧
      ∀ e ∈ entries, IsRegistrable realm e.2) ∧
    (∀ r, read = .ok r →
      ∃ entries, realm.entries v = .ok entries ∧ HoldsCreations realm make entries r) ∧
    (realm.kind v ≠ .object → read = .error "Invalid registry: expected an object") ∧
    (∀ thrown, realm.kind v = .object → realm.entries v = .error thrown →
      read = .error thrown) ∧
    (∀ before id bad after, realm.kind v = .object →
      realm.entries v = .ok (before ++ (id, bad) :: after) →
      (∀ e ∈ before, IsRegistrable realm e.2) →
      (¬ IsCreation realm bad →
        read = .error ("Invalid registry: creation " ++ id ++ " has no factory")) ∧
      ∀ thrown, IsCreation realm bad → defaultEntries realm bad = .error thrown →
        read = .error thrown) ∧
    ∀ id, let message := "Invalid registry: " ++ (RegistryError.duplicate id).message
      (∀ u, realm.entries u ≠ .error message) → read ≠ .error message := by
  intro read
  have hread := readRegistry_cases (κ := κ) lawful make v s
  refine ⟨⟨?_, ?_⟩, ?_, readRegistry_of_no_object, fun thrown hv h => readRegistry_of_thrown hv h,
    fun before id bad after hv hentries hbefore =>
      ⟨readRegistry_of_no_factory hv lawful hentries hbefore, fun thrown hbad hthrown =>
        readRegistry_of_thrown_defaults hv lawful hentries hbefore hbad hthrown⟩, ?_⟩
  · rintro ⟨r, hr⟩
    rcases hread with ⟨entries, -, hv, hentries, hall, -⟩ | ⟨-, message, herror, -⟩
    · exact ⟨hv, entries, hentries, hall⟩
    · exact nomatch hr.symm.trans herror
  · rintro ⟨hv, entries, hentries, hall⟩
    obtain ⟨r, hr, -⟩ := readRegistry_of_registrable (κ := κ) (s := s) hv lawful hentries hall
    exact ⟨r, hr⟩
  · intro r hr
    rcases hread with ⟨entries, r', -, hentries, -, hr', hholds⟩ | ⟨-, message, herror, -⟩
    · obtain rfl : r = r' := Except.ok.inj (hr.symm.trans hr')
      exact ⟨entries, hentries, hholds⟩
    · exact nomatch hr.symm.trans herror
  · intro id message hno hduplicate
    rcases hread with ⟨-, r, -, -, -, hr, -⟩ | ⟨-, told, herror, hcases⟩
    · exact nomatch hr.symm.trans hduplicate
    · obtain rfl : told = message := Except.error.inj (herror.symm.trans hduplicate)
      rcases hcases with hobject | ⟨other, hfactory⟩ | ⟨u, hu⟩
      · exact duplicate_ne_no_object id hobject.symm
      · exact duplicate_ne_no_factory id other hfactory.symm
      · exact hno u hu

/-- Of three entries the second has no factory. The third, which is no object, is not told. -/
theorem second_entry_has_no_factory :
    let creation : Object := .plain ⟨[("factory", .function "made")], by decide⟩
    let registry : Object := .plain
      ⟨[("id", .object 0), ("other", .function "made"), ("none", .undefined)], by decide⟩
    let realm := Heap.realm [creation, registry, .plain ⟨[("id", .object 0)], by decide⟩]
    (readRegistry (κ := Call) realm Class.mk (.object 1) ()).value =
        .error "Invalid registry: creation other has no factory" ∧
      ∃ r, (readRegistry (κ := Call) realm Class.mk (.object 2) ()).value = .ok r ∧
        r.ids = ["id"] := by
  intro creation registry realm
  have lawful : realm.Lawful := Heap.lawful _
  have hid : arrayIndex? "id" = none := by decide
  have hother : arrayIndex? "other" = none := by decide
  have hnone : arrayIndex? "none" = none := by decide
  have hentries : realm.entries (.object 1) =
      .ok [("id", .object 0), ("other", .function "made"), ("none", .undefined)] := by
    simp [realm, Heap.realm, Heap.entries, Heap.view, Heap.object?, registry, enumerated, hid,
      hother, hnone]
  have hsingle : realm.entries (.object 2) = .ok [("id", .object 0)] := by
    simp [realm, Heap.realm, Heap.entries, Heap.view, Heap.object?, enumerated, hid]
  have hcreation : IsRegistrable realm (.object 0) :=
    ⟨⟨.inl rfl, .function "made", rfl, rfl⟩, [], rfl⟩
  have hbad : ¬ IsCreation realm (.function "made") := by
    rintro ⟨-, factory, hfactory, hcallable⟩
    obtain rfl : Value.undefined = factory := Option.some.inj hfactory
    exact Kind.noConfusion hcallable
  constructor
  · obtain ⟨-, -, -, -, hfirst, -⟩ :=
      readRegistry_iff_creations (κ := Call) lawful Class.mk (.object 1) ()
    obtain ⟨hmessage, -⟩ := hfirst [("id", .object 0)] "other" (.function "made")
      [("none", .undefined)] rfl hentries (by simpa using hcreation)
    exact hmessage hbad
  · obtain ⟨hread, hholds, -⟩ :=
      readRegistry_iff_creations (κ := Call) lawful Class.mk (.object 2) ()
    obtain ⟨r, hr⟩ := hread.mpr ⟨rfl, _, hsingle, by simpa using hcreation⟩
    obtain ⟨entries, hlisted, hholds⟩ := hholds r hr
    obtain rfl : entries = [("id", .object 0)] := Except.ok.inj (hlisted.symm.trans hsingle)
    exact ⟨r, hr, hholds.ids⟩

end Browser

end CreationLoader
