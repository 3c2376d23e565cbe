import CreationLoader.Params.Operations
import CreationLoader.Proofs.MergeLaws

/-!
# What operations leave

Parameters can be read off the writes that have led to them: every name stands where it was first
written, with what was written last under it. A list that is collected begins the writes anew, and
of overrides only those count whose name has been written before.
-/

namespace CreationLoader.Params
open Association
variable {κ α : Type}

namespace Operation

/-- The writes behind the parameters after an operation, given those before it. -/
def writesAfter (before : List (String × α)) : Operation α → List (String × α)
  | insert name value | build name value => before ++ [(name, value)]
  | collect entries => entries
  | merge overrides =>
    before ++ overrides.entries.filter fun e => decide (e.1 ∈ before.map Prod.fst)

end Operation

/-- The writes behind the parameters that operations lead to from none. -/
def writes (operations : List (Operation α)) : List (String × α) :=
  operations.foldl Operation.writesAfter []

def after (p : Params α) (operations : List (Operation α)) : Params α :=
  ((performAll operations : Action (Params α) Unit _) p).state

theorem ofList_append (xs ys : List (String × α)) :
    ofList (xs ++ ys) = ys.foldl (fun p e => p.insert e.1 e.2) (ofList xs) := by
  simp [ofList, List.foldl_append]

theorem names_ofList (entries : List (String × α)) :
    (ofList entries).names = (entries.map Prod.fst).eraseDups := by
  induction entries using List.reverseRecOn with
  | nil => rfl
  | append_singleton before last ih =>
    obtain ⟨name, value⟩ := last
    rw [ofList_concat, names_insert, ih, List.map_append, List.map_singleton, eraseDups_concat]
    simp only [List.mem_eraseDups]

theorem mem_names_ofList {entries : List (String × α)} {name : String} :
    name ∈ (ofList entries).names ↔ name ∈ entries.map Prod.fst := by
  rw [names_ofList, List.mem_eraseDups]

theorem foldl_override_params (overrides : List (String × α)) (m : Merge α) :
    (overrides.foldl (fun m e => m.override e.1 e.2) m).params =
      (overrides.filter fun e => m.params.contains e.1).foldl (fun p e => p.insert e.1 e.2)
        m.params := by
  induction overrides generalizing m with
  | nil => rfl
  | cons o rest ih =>
    rw [List.foldl_cons, ih]
    simp only [Merge.override_contains]
    cases h : m.params.contains o.1 <;> simp [Merge.override, h]

theorem merge_ofList (entries : List (String × α)) (overrides : Params α) :
    ((ofList entries).merge overrides).params = ofList (Operation.writesAfter entries
      (.merge overrides)) := by
  have hcontains (name : String) :
      (ofList entries).contains name = decide (name ∈ entries.map Prod.fst) := by
    rw [Bool.eq_iff_iff, contains_iff, mem_names_ofList, decide_eq_true_iff]
  rw [merge, foldl_override_params, Operation.writesAfter, ofList_append]
  simp only [hcontains]

theorem perform_state (x : Operation α) (entries : List (String × α)) :
    ((x.perform : Action (Params α) κ _) (ofList entries)).state =
      ofList (x.writesAfter entries) := by
  cases x with
  | insert name value => simp [Operation.perform, replace_eq, Operation.writesAfter, ofList_concat]
  | build name value => simp [Operation.perform, replace_eq, Operation.writesAfter, ofList_concat]
  | collect entries => rfl
  | merge overrides => simpa [Operation.perform] using merge_ofList entries overrides

theorem after_cons (p : Params α) (x : Operation α) (rest : List (Operation α)) :
    p.after (x :: rest) = ((x.perform : Action (Params α) Unit _) p).state.after rest := by
  simp [after, performAll]

theorem after_ofList (operations : List (Operation α)) (entries : List (String × α)) :
    (ofList entries).after operations =
      ofList (operations.foldl Operation.writesAfter entries) := by
  induction operations generalizing entries with
  | nil => rfl
  | cons x rest ih => rw [after_cons, perform_state, ih, List.foldl_cons]

/-- The writes say all about the parameters. -/
theorem after_eq_ofList (operations : List (Operation α)) :
    (∅ : Params α).after operations = ofList (writes operations) :=
  after_ofList operations []

theorem writes_map_insert (entries : List (String × α)) :
    writes (entries.map fun e => .insert e.1 e.2) = entries := by
  induction entries using List.reverseRecOn with
  | nil => rfl
  | append_singleton before last ih =>
    rw [writes] at ih ⊢
    rw [List.map_append, List.foldl_append, ih]
    rfl

theorem get?_eq_some_iff {p : Params α} {name : String} {value : α} :
    p.get? name = some value ↔ (name, value) ∈ p.entries :=
  lookup_eq_some_iff p.nodup

/-- The entries are the names in their order, each with what is found under it. -/
theorem entries_eq_filterMap (p : Params α) :
    p.entries = p.names.filterMap fun name => (p.get? name).map (name, ·) := by
  have hfound (entries : List (String × α)) (h : entries ⊆ p.entries) :
      (entries.map Prod.fst).filterMap (fun name => (p.get? name).map (name, ·)) = entries := by
    induction entries with
    | nil => rfl
    | cons e rest ih =>
      obtain ⟨he, hrest⟩ := List.cons_subset.mp h
      simp [get?_eq_some_iff.mpr he, ih hrest]
  exact (hfound p.entries (List.Subset.refl _)).symm

theorem getElem?_insert {p : Params α} {place : Nat} {e : String × α}
    (h : p.entries[place]? = some e) (name : String) (value : α) :
    (p.insert name value).entries[place]? = some (if e.1 = name then (name, value) else e) := by
  by_cases hname : name ∈ p.names
  · have hentries : (p.insert name value).entries = _ := put_of_mem value hname p.nodup
    rw [hentries, List.getElem?_map, h, Option.map_some]
    by_cases he : e.1 = name
    · simp [he]
    · simp [he, Ne.symm he]
  · have hentries : (p.insert name value).entries = _ := put_of_not_mem value hname
    have he : e.1 ≠ name := fun he => hname (he ▸ List.mem_map_of_mem (List.mem_of_getElem? h))
    rw [hentries, List.getElem?_append_left (List.getElem?_eq_some_iff.mp h).1, h, if_neg he]

/-- Parameters come about by any operations: names are set, in place or while building, lists are
collected, in which names may be repeated, and overrides are laid over what is there. Then each name
stands once, where it was first written, and under it is found what was written last; what all the
other questions are answered follows from that. To set a name once more answers what was found
under it, changes this alone, and moves nothing. To collect a list is to set its names one after
the other. -/
theorem operations_leave_last_writes (operations : List (Operation α)) :
    let p := (∅ : Params α).after operations
    let written := writes operations
    p.names = (written.map Prod.fst).eraseDups ∧ p.names.Nodup ∧
    (∀ name, p.get? name = written.reverse.lookup name) ∧
    (∀ name, p.contains name = true ↔ name ∈ written.map Prod.fst) ∧
    (∀ name, p.contains name = (p.get? name).isSome) ∧
    (∀ name value, (name, value) ∈ p.entries ↔ p.get? name = some value) ∧
    p.entries = p.names.filterMap (fun name => (p.get? name).map (name, ·)) ∧
    p.size = p.names.length ∧ (p.isEmpty = true ↔ written = []) ∧
    (∀ name value,
      let inserting : Effect (Params α) κ (Option α) := Operation.perform (.insert name value) p
      inserting.value = p.get? name ∧
      inserting.state.names = (if name ∈ p.names then p.names else p.names ++ [name]) ∧
      (∀ other, inserting.state.get? other =
        if name = other then some value else p.get? other) ∧
      (∀ (place : Nat) (e : String × α), p.entries[place]? = some e →
        inserting.state.entries[place]? = some (if e.1 = name then (name, value) else e)) ∧
      (Operation.perform (.build name value) p : Effect (Params α) κ (Option α)).state =
        inserting.state) ∧
    ∀ entries : List (String × α),
      p.after [.collect entries] =
        (∅ : Params α).after (entries.map fun e => .insert e.1 e.2) := by
  intro p written
  have hp : p = ofList written := after_eq_ofList operations
  have hnames : p.names = (written.map Prod.fst).eraseDups := hp ▸ names_ofList written
  have hmem (name : String) : name ∈ p.names ↔ name ∈ written.map Prod.fst := by
    rw [hnames, List.mem_eraseDups]
  refine ⟨hnames, p.names_nodup, fun name => hp ▸ get?_ofList written name,
    fun name => contains_iff.trans (hmem name), fun name => rfl,
    fun name value => get?_eq_some_iff.symm, p.entries_eq_filterMap,
    (List.length_map _).symm, ?_, fun name value => ?_, fun entries => ?_⟩
  · have hempty : p.isEmpty = true ↔ p.names = [] := by simp [isEmpty, names]
    rw [hempty, hnames]
    cases written <;> simp [List.eraseDups_cons]
  · intro inserting
    have hvalue : inserting.value = p.get? name := by
      simp [inserting, Operation.perform, replace_eq]
    have hstate : inserting.state = p.insert name value := by
      simp [inserting, Operation.perform, replace_eq]
    rw [hvalue, hstate]
    refine ⟨rfl, names_insert p name value, fun other => get?_insert p name other value,
      fun place e he => getElem?_insert he name value, ?_⟩
    simp [Operation.perform, replace_eq]
  · rw [after_eq_ofList, writes_map_insert]
    rfl

end CreationLoader.Params
