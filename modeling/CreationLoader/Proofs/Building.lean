import CreationLoader.Proofs.Registrations
import Mathlib.Data.List.Basic

/-!
# What registrations build

Registrations are made one after the other. One is refused exactly if its id was asked for
before, and nothing is left of it: what is answered and built is what it would be without it.
So a registry holds every id that was asked for, in the order in which the ids first came, and
under each id what came with it first.
-/

namespace CreationLoader.Registry
open Association
variable {F V : Type}

def refusal? (r : Registry F V) (id : String) (e : Entry F V) : Option RegistryError :=
  match r.register id e.factory e.defaults with
  | .error refused => some refused
  | .ok _ => none

/-- The answers to registrations that are made one after the other. -/
def refusals (r : Registry F V) : List (String × Entry F V) → List (Option RegistryError)
  | [] => []
  | (id, e) :: rest => r.refusal? id e :: (r.tryRegister id e).refusals rest

theorem refusal?_eq (r : Registry F V) (id : String) (e : Entry F V) :
    r.refusal? id e = if id ∈ r.ids then some (.duplicate id) else none := by
  unfold refusal? register
  split_ifs <;> rfl

theorem tryRegister_of_mem {r : Registry F V} {id : String} (h : id ∈ r.ids) (e : Entry F V) :
    r.tryRegister id e = r := by
  apply ext
  rw [entries_tryRegister, if_pos h]

theorem register_of_not_mem {r : Registry F V} {id : String} (h : id ∉ r.ids) (e : Entry F V) :
    r.register id e.factory e.defaults = .ok (r.tryRegister id e) := by
  unfold tryRegister register
  rw [dif_neg h]
  rfl

theorem ids_tryRegister (r : Registry F V) (id : String) (e : Entry F V) :
    (r.tryRegister id e).ids = if id ∈ r.ids then r.ids else r.ids ++ [id] := by
  rw [ids, entries_tryRegister]
  split_ifs <;> simp [ids]

/-- Every id stands where it came first. -/
theorem ids_ofRegistrations (calls : List (String × Entry F V)) :
    (ofRegistrations calls).ids = (calls.map Prod.fst).eraseDups := by
  induction calls using List.reverseRecOn with
  | nil => rfl
  | append_singleton before last ih =>
    obtain ⟨id, e⟩ := last
    rw [ofRegistrations_concat, ids_tryRegister, ih, List.map_append, List.map_singleton,
      eraseDups_concat]
    simp only [List.mem_eraseDups]

theorem mem_ids_ofRegistrations {calls : List (String × Entry F V)} {id : String} :
    id ∈ (ofRegistrations calls).ids ↔ id ∈ calls.map Prod.fst := by
  rw [ids_ofRegistrations, List.mem_eraseDups]

theorem ofRegistrations_append (before after : List (String × Entry F V)) :
    ofRegistrations (before ++ after) =
      after.foldl (fun r e => r.tryRegister e.1 e.2) (ofRegistrations before) := by
  rw [ofRegistrations, List.foldl_append, ofRegistrations]

theorem refusals_append (r : Registry F V) (xs ys : List (String × Entry F V)) :
    r.refusals (xs ++ ys) =
      r.refusals xs ++ (xs.foldl (fun r e => r.tryRegister e.1 e.2) r).refusals ys := by
  induction xs generalizing r with
  | nil => rfl
  | cons x xs ih =>
    rw [List.cons_append, refusals, ih]
    rfl

theorem refusals_length (r : Registry F V) (calls : List (String × Entry F V)) :
    (r.refusals calls).length = calls.length := by
  induction calls generalizing r with
  | nil => rfl
  | cons x calls ih => rw [refusals, List.length_cons, ih, List.length_cons]

/-- The answers to some registrations, to one more, and to those that follow. -/
theorem refusals_split (before after : List (String × Entry F V)) (id : String) (e : Entry F V) :
    refusals ∅ (before ++ (id, e) :: after) =
      refusals ∅ before ++ (ofRegistrations before).refusal? id e ::
        ((ofRegistrations before).tryRegister id e).refusals after := by
  rw [refusals_append]
  rfl

theorem place?_eq (r : Registry F V) (id : String) :
    r.place? id = if id ∈ r.ids then some (r.ids.idxOf id) else none := by
  split_ifs with h
  · exact List.findIdx?_eq_some_of_exists ⟨id, h, by simp⟩
  · refine List.findIdx?_eq_none_iff.mpr fun other hother => ?_
    have hne : other ≠ id := fun he => h (he ▸ hother)
    simp [hne]

theorem sameEntry?_eq (r : Registry F V) (a b : String) :
    sameEntry? r a b = if a ∈ r.ids ∧ b ∈ r.ids then some (decide (a = b)) else none := by
  have hsame (ha : a ∈ r.ids) : (r.ids.idxOf a == r.ids.idxOf b) = decide (a = b) := by
    rw [Bool.eq_iff_iff, beq_iff_eq, decide_eq_true_iff]
    exact List.idxOf_inj ha
  unfold sameEntry?
  rw [place?_eq, place?_eq]
  by_cases ha : a ∈ r.ids
  · by_cases hb : b ∈ r.ids <;> simp [ha, hb, hsame]
  · simp [ha]

/-- Whatever registrations are made, in whatever order and with whatever repetitions: one is
refused if and only if its id was asked for before, by the error that names the id. A refused
one can be left out, and neither the other answers nor the registry are changed. One that is
not refused gives the registry with which the next go on. What is built has each id once, in
the order in which the ids first came; it has an entry for these ids only, which is what first
came with the id; and every look-up of an id gives the same shared entry, which is that of no
other id. -/
theorem built_by_first_registrations (calls : List (String × Entry F V)) :
    let asked := calls.map Prod.fst
    let built := ofRegistrations calls
    (∀ before id e after, calls = before ++ (id, e) :: after →
      (refusals ∅ calls)[before.length]? =
        some (if id ∈ before.map Prod.fst then some (.duplicate id) else none) ∧
      (id ∈ before.map Prod.fst →
        ofRegistrations (before ++ after) = built ∧
        refusals ∅ (before ++ after) = (refusals ∅ calls).eraseIdx before.length) ∧
      (id ∉ before.map Prod.fst →
        (ofRegistrations before).register id e.factory e.defaults =
          .ok (ofRegistrations (before ++ [(id, e)])))) ∧
    (built.ids = asked.eraseDups ∧ built.ids.Nodup ∧ built.size = built.ids.length ∧
      (built.isEmpty = true ↔ built.ids = [])) ∧
    (∀ id, (built.contains id = true ↔ id ∈ asked) ∧
      ((built.get? id).isSome = true ↔ id ∈ asked) ∧ built.get? id = calls.lookup id) ∧
    ∀ a b, sameEntry? built a b =
      if a ∈ asked ∧ b ∈ asked then some (decide (a = b)) else none := by
  intro asked built
  refine ⟨?_, ⟨ids_ofRegistrations calls, built.nodup, ?_, ?_⟩, ?_, ?_⟩
  · rintro before id e after rfl
    have hids : id ∈ (ofRegistrations before).ids ↔ id ∈ before.map Prod.fst :=
      mem_ids_ofRegistrations
    have hlength : (refusals ∅ before).length = before.length := refusals_length ∅ before
    have hbuilt : built = after.foldl (fun r e => r.tryRegister e.1 e.2)
        ((ofRegistrations before).tryRegister id e) := ofRegistrations_append before _
    refine ⟨?_, fun hmem => ⟨?_, ?_⟩, fun hmem => ?_⟩
    · rw [refusals_split, ← hlength, List.getElem?_append_right (Nat.le_refl _), Nat.sub_self,
        List.getElem?_cons_zero, refusal?_eq]
      simp only [hids]
    · rw [hbuilt, tryRegister_of_mem (hids.mpr hmem), ofRegistrations_append]
    · rw [refusals_split, tryRegister_of_mem (hids.mpr hmem), refusals_append, ← hlength]
      simp [List.eraseIdx_append_of_length_le, ofRegistrations]
    · rw [ofRegistrations_concat]
      exact register_of_not_mem (fun h => hmem (hids.mp h)) e
  · simp [size, ids]
  · simp [isEmpty, ids]
  · intro id
    have hget : built.get? id = calls.lookup id := get?_ofRegistrations calls id
    refine ⟨?_, ?_, hget⟩
    · rw [contains, List.contains_iff_mem]
      exact mem_ids_ofRegistrations
    · rw [hget]
      exact isSome_lookup_iff
  · intro a b
    rw [sameEntry?_eq]
    simp only [built, asked, mem_ids_ofRegistrations]

end CreationLoader.Registry
