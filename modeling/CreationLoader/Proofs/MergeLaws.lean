import CreationLoader.Params.Store
import CreationLoader.Proofs.Merging
import Mathlib.Data.List.Induction

/-!
# Laws of merging

What merging gives can be read off name by name, and so can what it ignores. It leaves alone
what it merges. Overrides act on defaults: to lay one list over them and then another is to lay
both at once, and in what order they were collected does not matter.
-/

namespace CreationLoader
variable {κ α : Type}

namespace Params
open Association

theorem contains_congr {p q : Params α} (h : p.names = q.names) (name : String) :
    p.contains name = q.contains name := by
  rw [Bool.eq_iff_iff, contains_iff, contains_iff, h]

namespace Merge

theorem override_contains (m : Merge α) (name : String) (value : α) (other : String) :
    (m.override name value).params.contains other = m.params.contains other := by
  apply contains_congr
  rw [names, override_entries, List.map_map]
  rfl

theorem override_ignored (m : Merge α) (name : String) (value : α) :
    (m.override name value).ignored =
      if m.params.contains name then m.ignored else m.ignored ++ [name] := by
  unfold override
  split <;> rfl

end Merge

/-- No override adds a name, so whether one is ignored can be told before the first is laid. -/
theorem foldl_override_ignored (overrides : List (String × α)) (m : Merge α) :
    (overrides.foldl (fun m e => m.override e.1 e.2) m).ignored =
      m.ignored ++ (overrides.map Prod.fst).filter fun name => !m.params.contains name := by
  induction overrides generalizing m with
  | nil => exact (List.append_nil _).symm
  | cons o rest ih =>
    rw [List.foldl_cons, ih, Merge.override_ignored]
    simp only [Merge.override_contains]
    cases h : m.params.contains o.1 <;> simp [h]

theorem merge_ignored (defaults overrides : Params α) :
    (defaults.merge overrides).ignored =
      overrides.names.filter fun name => !defaults.contains name :=
  foldl_override_ignored overrides.entries { params := defaults }

namespace Store

theorem modify_concat_length (store : Store α) (p : Params α) (f : Params α → Params α) :
    (store ++ [p]).modify store.length f = store ++ [f p] := by
  induction store with
  | nil => rfl
  | cons q rest ih =>
    rw [List.cons_append, List.length_cons, List.modify_succ_cons, ih, List.cons_append]

theorem override_apply (store : Store α) (m : Merge α) (name : String) (value : α) :
    (override store.length name value (store ++ [m.params]) : Effect (Store α) κ Unit) =
      { value := ()
        state := store ++ [(m.override name value).params]
        events := if m.params.contains name then [] else [.overrideIgnored name] } := by
  cases h : m.params.contains name <;>
    simp [override, Merge.override, modify_concat_length, h]

theorem overrideAll_apply (store : Store α) (m : Merge α) (overrides : List (String × α)) :
    (overrideAll store.length overrides (store ++ [m.params]) : Effect (Store α) κ Unit) =
      { value := ()
        state := store ++ [(overrides.foldl (fun m e => m.override e.1 e.2) m).params]
        events := ((overrides.map Prod.fst).filter fun name => !m.params.contains name).map
          .overrideIgnored } := by
  induction overrides generalizing m with
  | nil => rfl
  | cons o rest ih =>
    simp only [overrideAll, Action.bind_apply, override_apply, ih, Merge.override_contains]
    cases h : m.params.contains o.1 <;> simp [h]

theorem merge_apply {store : Store α} {d o : Nat} {defaults overrides : Params α}
    (hd : store[d]? = some defaults) (ho : store[o]? = some overrides) :
    (merge d o store : Effect (Store α) κ (Option Nat)) =
      { value := some store.length
        state := store ++ [(defaults.merge overrides).params]
        events := (defaults.merge overrides).ignored.map .overrideIgnored } := by
  have hlaid := overrideAll_apply (κ := κ) store { params := defaults } overrides.entries
  simp only [merge, add, Action.bind_apply, Action.get_apply, hd, ho, Action.modify_apply,
    Action.pure_apply, hlaid, merge_ignored, List.nil_append, List.append_nil]
  rfl

end Store

/-- Two sets of parameters are merged. The result has exactly the names of the defaults, in
their order, and under each the override if there is one and else the default. What is ignored
are the overrides without a default, each once and in their order. Done in a store, in which the
two may be one set, merging reports just these, and leaves both as they were, as it does all
others that the store holds. -/
theorem merged_name_by_name {store : Store α} {d o : Nat} {defaults overrides : Params α}
    (hd : store[d]? = some defaults) (ho : store[o]? = some overrides) :
    let m := defaults.merge overrides
    let merging : Effect (Store α) κ (Option Nat) := Store.merge d o store
    m.params.names = defaults.names ∧
    (∀ name ∈ defaults.names, m.params.get? name =
      if overrides.contains name then overrides.get? name else defaults.get? name) ∧
    m.ignored = overrides.names.filter (fun name => !defaults.contains name) ∧
    m.ignored.Nodup ∧
    merging.value = some store.length ∧ merging.state = store ++ [m.params] ∧
    merging.events = m.ignored.map .overrideIgnored ∧ merging.calls = [] ∧
    merging.state[d]? = some defaults ∧ merging.state[o]? = some overrides := by
  intro m merging
  have hmerging : merging = _ := Store.merge_apply hd ho
  have hkept {place : Nat} {p : Params α} (hp : store[place]? = some p) :
      merging.state[place]? = some p := by
    obtain ⟨hlt, -⟩ := List.getElem?_eq_some_iff.mp hp
    rw [hmerging, List.getElem?_append_left hlt, hp]
  refine ⟨merge_names defaults overrides, fun name hname => ?_, merge_ignored defaults overrides,
    ?_, by rw [hmerging], by rw [hmerging], by rw [hmerging], by rw [hmerging], hkept hd, hkept ho⟩
  · obtain ⟨value, hvalue⟩ : ∃ value, defaults.get? name = some value := mem_names_iff.mp hname
    rw [merge_get?, hvalue]
    cases ho : overrides.get? name <;> simp [contains, ho]
  · rw [merge_ignored]
    exact overrides.names_nodup.filter _

/-- One override replaces a default, one comes to nothing, and the defaults stay what they are. -/
theorem merged_name_by_name_of_two :
    let defaults : Params Nat := ⟨[("size", 1), ("shown", 2)], by decide⟩
    let overrides : Params Nat := ⟨[("other", 3), ("shown", 4)], by decide⟩
    let merged := (defaults.merge overrides).params
    let merging : Effect (Store Nat) Unit (Option Nat) := Store.merge 0 1 [defaults, overrides]
    merged.names = ["size", "shown"] ∧ merged.get? "shown" = some 4 ∧
      merging.state = [defaults, overrides, merged] ∧
      merging.events = [.overrideIgnored "other"] := by
  intro defaults overrides merged merging
  have hd : ([defaults, overrides] : Store Nat)[0]? = some defaults := rfl
  have ho : ([defaults, overrides] : Store Nat)[1]? = some overrides := rfl
  obtain ⟨hnames, hvalues, -, -, -, hstate, hevents, -, -, -⟩ :=
    merged_name_by_name (κ := Unit) hd ho
  exact ⟨hnames, hvalues "shown" (by decide), hstate, hevents⟩

theorem ofList_concat (entries : List (String × α)) (name : String) (value : α) :
    ofList (entries ++ [(name, value)]) = (ofList entries).insert name value := by
  simp [ofList, List.foldl_append]

theorem get?_ofList (entries : List (String × α)) (name : String) :
    (ofList entries).get? name = entries.reverse.lookup name := by
  induction entries using List.reverseRecOn with
  | nil => rfl
  | append_singleton rest last ih =>
    obtain ⟨other, value⟩ := last
    rw [ofList_concat, get?_insert, ih, List.reverse_append, List.reverse_singleton,
      List.singleton_append, lookup_cons]

/-- Overrides count for what stands under their names, and for nothing else. -/
theorem merge_congr (defaults : Params α) {o₁ o₂ : Params α}
    (h : ∀ name, o₁.get? name = o₂.get? name) :
    (defaults.merge o₁).params = (defaults.merge o₂).params := by
  apply ext
  simp only [merge_entries, h]

theorem merge_merge_entries (defaults o₁ o₂ : Params α) :
    ((defaults.merge o₁).params.merge o₂).params.entries =
      defaults.entries.map fun e => (e.1, ((o₂.get? e.1).or (o₁.get? e.1)).getD e.2) := by
  rw [merge_entries, merge_entries, List.map_map]
  simp [Function.comp_def]

/-- Overrides are collected from lists, in which names may be repeated. To lay those of two lists
over some defaults, one list behind the other, is to lay those of the first and then those of the
second, and the overrides of no list leave the defaults as they are. Overrides that hold the same
values under the same names give the same, in the same order, however they are ordered. -/
theorem overrides_act_on_defaults :
    (∀ d : Params α, (d.merge (ofList [])).params = d) ∧
    (∀ (d : Params α) (l₁ l₂ : List (String × α)),
      (d.merge (ofList (l₁ ++ l₂))).params =
        ((d.merge (ofList l₁)).params.merge (ofList l₂)).params) ∧
    ∀ d o₁ o₂ : Params α, o₁.entries.Perm o₂.entries →
      (d.merge o₁).params = (d.merge o₂).params := by
  refine ⟨fun d => rfl, fun d l₁ l₂ => ?_, fun d o₁ o₂ h => ?_⟩
  · apply ext
    rw [merge_merge_entries, merge_entries]
    refine List.map_congr_left fun e _ => ?_
    rw [get?_ofList, get?_ofList, get?_ofList, List.reverse_append, List.lookup_append]
  · exact merge_congr d fun name => lookup_perm h o₁.nodup name

/-- The same two overrides in either order. -/
theorem overrides_act_alike_reversed :
    let defaults : Params Nat := ⟨[("size", 1), ("shown", 2)], by decide⟩
    let overrides : Params Nat := ⟨[("shown", 3), ("size", 4)], by decide⟩
    let reversed : Params Nat := ⟨[("size", 4), ("shown", 3)], by decide⟩
    overrides.entries.Perm reversed.entries ∧
      (defaults.merge overrides).params = (defaults.merge reversed).params := by
  intro defaults overrides reversed
  have hperm : overrides.entries.Perm reversed.entries := .swap _ _ _
  exact ⟨hperm, overrides_act_on_defaults.2.2 defaults overrides reversed hperm⟩

end Params

end CreationLoader
