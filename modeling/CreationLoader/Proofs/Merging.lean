import CreationLoader.Params.Basic
import Mathlib.Tactic.SplitIfs

/-!
# What merging gives

Merged parameters have the names of the defaults, in the order of the defaults. The value of a
name is the override's, if there is one, and else the default.
-/

namespace CreationLoader
variable {α : Type}

theorem Association.eraseDups_concat (names : List String) (name : String) :
    (names ++ [name]).eraseDups =
      if name ∈ names then names.eraseDups else names.eraseDups ++ [name] := by
  rw [List.eraseDups_append]
  by_cases h : name ∈ names
  · simp [List.removeAll, h]
  · simp [List.removeAll, h, List.eraseDups_cons]

namespace Params
open Association

theorem contains_iff {p : Params α} {name : String} : p.contains name = true ↔ name ∈ p.names :=
  isSome_lookup_iff

namespace Merge

theorem override_entries (m : Merge α) (name : String) (value : α) :
    (m.override name value).params.entries =
      m.params.entries.map fun e => (e.1, if name = e.1 then value else e.2) := by
  unfold override
  split
  next h => exact put_of_mem value (contains_iff.mp h) m.params.nodup
  next h => exact (map_of_not_mem value fun hmem => h (contains_iff.mpr hmem)).symm

end Merge

/-- What lies over the defaults is laid on one by one, so the induction is on the overrides. -/
theorem foldl_override_entries (overrides : List (String × α)) (m : Merge α)
    (h : (overrides.map Prod.fst).Nodup) :
    (overrides.foldl (fun m e => m.override e.1 e.2) m).params.entries =
      m.params.entries.map fun e => (e.1, (overrides.lookup e.1).getD e.2) := by
  induction overrides generalizing m with
  | nil => simp
  | cons o rest ih =>
    obtain ⟨hnot, hrest⟩ := List.nodup_cons.mp h
    rw [List.foldl_cons, ih (m.override o.1 o.2) hrest, Merge.override_entries, List.map_map]
    refine List.map_congr_left fun e _ => ?_
    by_cases hn : o.1 = e.1
    · have hfind : rest.lookup e.1 = none := lookup_eq_none (hn ▸ hnot)
      simp [hn, hfind, lookup_cons]
    · simp [hn, lookup_cons]

/-- Every default stands at its place, with the override's value if there is one. -/
theorem merge_entries (defaults overrides : Params α) :
    (defaults.merge overrides).params.entries =
      defaults.entries.map fun e => (e.1, (overrides.get? e.1).getD e.2) :=
  foldl_override_entries overrides.entries { params := defaults } overrides.nodup

/-- Names that are all new are set one behind the other. -/
theorem foldl_insert_entries (entries : List (String × α)) (p : Params α)
    (h : (p.names ++ entries.map Prod.fst).Nodup) :
    (entries.foldl (fun p e => p.insert e.1 e.2) p).entries = p.entries ++ entries := by
  induction entries generalizing p with
  | nil => exact (List.append_nil _).symm
  | cons e rest ih =>
    have hnot : e.1 ∉ p.names := by
      intro hmem
      exact (List.nodup_append.mp h).2.2 e.1 hmem e.1 (by simp) rfl
    have hinsert : (p.insert e.1 e.2).entries = p.entries ++ [e] := put_of_not_mem e.2 hnot
    have hnames : (p.insert e.1 e.2).names = p.names ++ [e.1] := by
      rw [names_insert, if_neg hnot]
    rw [List.foldl_cons, ih, hinsert, List.append_assoc, List.singleton_append]
    rw [hnames, List.append_assoc]
    exact h

theorem ofList_entries {entries : List (String × α)} (h : (entries.map Prod.fst).Nodup) :
    (ofList entries).entries = entries :=
  foldl_insert_entries entries ∅ h

theorem merge_names (defaults overrides : Params α) :
    (defaults.merge overrides).params.names = defaults.names := by
  rw [names, merge_entries, List.map_map, names]
  rfl

theorem merge_get? (defaults overrides : Params α) (name : String) :
    (defaults.merge overrides).params.get? name =
      (defaults.get? name).map fun value => (overrides.get? name).getD value := by
  rw [get?, merge_entries]
  exact lookup_map name (fun name value => (overrides.get? name).getD value) defaults.entries

end Params

end CreationLoader
