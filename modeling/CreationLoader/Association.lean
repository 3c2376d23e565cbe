/-!
# Association lists

Values under names, in a list. Setting a name that is there replaces its value in place,
and setting a new one adds it at the end.
-/

namespace CreationLoader.Association
variable {α β : Type} {name : String} {value : α} {entries other : List (String × α)}

/-- The entries after a name has been set: in its place if it is there, else at the end. -/
def put (name : String) (value : α) : List (String × α) → List (String × α)
  | [] => [(name, value)]
  | (n, v) :: rest => if n = name then (n, value) :: rest else (n, v) :: put name value rest

/-- The look-up of the core library, with the name first as in `put`. -/
abbrev find? (name : String) (entries : List (String × α)) : Option α := entries.lookup name

def putAll (new old : List (String × α)) : List (String × α) :=
  new.foldl (fun entries e => put e.1 e.2 entries) old

theorem lookup_cons (name : String) (e : String × α) (rest : List (String × α)) :
    (e :: rest).lookup name = if e.1 = name then some e.2 else rest.lookup name := by
  by_cases h : e.1 = name
  · rw [if_pos h, ← h]
    exact List.lookup_cons_self
  · have hne : (name == e.1) = false := beq_eq_false_iff_ne.mpr (Ne.symm h)
    rw [if_neg h, List.lookup_cons, hne]

theorem mem_of_lookup (h : entries.lookup name = some value) : (name, value) ∈ entries := by
  obtain ⟨before, after, rfl, -⟩ := List.lookup_eq_some_iff.mp h
  simp

theorem isSome_lookup_iff : (entries.lookup name).isSome = true ↔ name ∈ entries.map Prod.fst := by
  rw [List.lookup_isSome_iff, List.mem_map]
  exact exists_congr fun e => and_congr_right fun _ => beq_iff_eq.trans eq_comm

theorem lookup_eq_none (h : name ∉ entries.map Prod.fst) : entries.lookup name = none := by
  rw [List.lookup_eq_none_iff]
  intro e he
  exact bne_iff_ne.mpr fun hname => h (hname ▸ List.mem_map_of_mem he)

theorem mem_names_iff :
    name ∈ entries.map Prod.fst ↔ ∃ value, entries.lookup name = some value := by
  rw [← isSome_lookup_iff, Option.isSome_iff_exists]

theorem lookup_of_mem (hmem : (name, value) ∈ entries) (h : (entries.map Prod.fst).Nodup) :
    entries.lookup name = some value := by
  induction entries with
  | nil => exact nomatch hmem
  | cons e rest ih =>
    obtain ⟨hnot, hrest⟩ := List.nodup_cons.mp h
    rcases List.mem_cons.mp hmem with rfl | hmem
    · exact List.lookup_cons_self
    · have hne : ¬ e.1 = name := fun he => hnot (he ▸ List.mem_map_of_mem hmem)
      rw [lookup_cons, if_neg hne, ih hmem hrest]

theorem lookup_eq_some_iff (h : (entries.map Prod.fst).Nodup) :
    entries.lookup name = some value ↔ (name, value) ∈ entries :=
  ⟨mem_of_lookup, fun hmem => lookup_of_mem hmem h⟩

/-- Where each name stands once, it does not matter in what order. -/
theorem lookup_perm (hperm : entries.Perm other) (h : (entries.map Prod.fst).Nodup)
    (name : String) : entries.lookup name = other.lookup name := by
  have h' : (other.map Prod.fst).Nodup := (hperm.map Prod.fst).nodup_iff.mp h
  refine Option.ext fun value => ?_
  rw [lookup_eq_some_iff h, lookup_eq_some_iff h', hperm.mem_iff]

theorem lookup_map (name : String) (f : String → α → β) (entries : List (String × α)) :
    (entries.map fun e => (e.1, f e.1 e.2)).lookup name = (entries.lookup name).map (f name) := by
  induction entries with
  | nil => rfl
  | cons e rest ih =>
    by_cases hn : e.1 = name
    · simp [lookup_cons, hn]
    · simp [lookup_cons, hn, ih]

theorem map_fst_put (name : String) (value : α) (entries : List (String × α)) :
    (put name value entries).map Prod.fst =
      if name ∈ entries.map Prod.fst then entries.map Prod.fst
      else entries.map Prod.fst ++ [name] := by
  induction entries with
  | nil => simp [put]
  | cons e rest ih =>
    by_cases h : e.1 = name
    · simp [put, h]
    · have h' : ¬ name = e.1 := fun e' => h e'.symm
      simp only [put, h, if_false, List.map_cons, ih, List.mem_cons, h', false_or]
      split <;> simp

theorem lookup_put (name other : String) (value : α) (entries : List (String × α)) :
    (put name value entries).lookup other =
      if name = other then some value else entries.lookup other := by
  induction entries with
  | nil => simp [put, lookup_cons]
  | cons e rest ih =>
    by_cases h : e.1 = name
    · by_cases h' : e.1 = other <;> simp_all [put, lookup_cons]
    · by_cases h' : e.1 = other
      · subst h'
        simp [put, lookup_cons, h, Ne.symm h]
      · simpa [put, lookup_cons, h, h'] using ih

theorem map_of_not_mem (value : α) (h : name ∉ entries.map Prod.fst) :
    entries.map (fun e => (e.1, if name = e.1 then value else e.2)) = entries := by
  refine (List.map_congr_left fun e he => ?_).trans entries.map_id
  have hne : ¬ name = e.1 := fun hn => h (hn ▸ List.mem_map_of_mem he)
  simp [hne]

/-- Setting a name that is there changes what stands under it and nothing else. -/
theorem put_of_mem (value : α) (h : name ∈ entries.map Prod.fst)
    (hnodup : (entries.map Prod.fst).Nodup) :
    put name value entries = entries.map fun e => (e.1, if name = e.1 then value else e.2) := by
  induction entries with
  | nil => exact nomatch h
  | cons e rest ih =>
    obtain ⟨hnot, hrest⟩ := List.nodup_cons.mp hnodup
    by_cases hn : e.1 = name
    · subst hn
      simp [put, map_of_not_mem value hnot]
    · have hmem : name ∈ rest.map Prod.fst := by
        rcases List.mem_cons.mp h with he | hmem
        · exact absurd he.symm hn
        · exact hmem
      have hn' : ¬ name = e.1 := fun he => hn he.symm
      simp [put, hn, hn', ih hmem hrest]

theorem put_of_not_mem (value : α) (h : name ∉ entries.map Prod.fst) :
    put name value entries = entries ++ [(name, value)] := by
  induction entries with
  | nil => rfl
  | cons e rest ih =>
    obtain ⟨hn, hrest⟩ := not_or.mp (fun hor => h (List.mem_cons.mpr hor))
    have hn' : ¬ e.1 = name := fun he => hn he.symm
    simp [put, hn', ih hrest]

end CreationLoader.Association
