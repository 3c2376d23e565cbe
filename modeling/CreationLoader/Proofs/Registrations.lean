import CreationLoader.Proofs.Merging
import CreationLoader.Registry
import Mathlib.Data.List.Induction
import Mathlib.Tactic.SplitIfs

/-!
# The first registration wins

A registry comes about by registrations, one after the other. One that is refused leaves the
registry as it is, so an id stands for what was first registered under it. Every registry comes
about so.
-/

namespace CreationLoader
variable {F V : Type}

namespace Registry
open Association

def tryRegister (r : Registry F V) (id : String) (e : Entry F V) : Registry F V :=
  (r.register id e.factory e.defaults).toOption.getD r

/-- The registry that registrations lead to. -/
def ofRegistrations (registrations : List (String × Entry F V)) : Registry F V :=
  registrations.foldl (fun r e => r.tryRegister e.1 e.2) ∅

theorem entries_tryRegister (r : Registry F V) (id : String) (e : Entry F V) :
    (r.tryRegister id e).entries =
      if id ∈ r.ids then r.entries else r.entries ++ [(id, e)] := by
  unfold tryRegister register
  split_ifs <;> rfl

theorem ofRegistrations_concat (registrations : List (String × Entry F V)) (id : String)
    (e : Entry F V) :
    ofRegistrations (registrations ++ [(id, e)]) =
      (ofRegistrations registrations).tryRegister id e := by
  simp [ofRegistrations, List.foldl_append]

theorem get?_ofRegistrations (registrations : List (String × Entry F V)) (id : String) :
    (ofRegistrations registrations).get? id = registrations.lookup id := by
  induction registrations using List.reverseRecOn with
  | nil => rfl
  | append_singleton rest last ih =>
    obtain ⟨other, e⟩ := last
    rw [ofRegistrations_concat, get?, entries_tryRegister, List.lookup_append, ← ih]
    split_ifs with hmem
    · -- The id is taken, so what was found before is found, or nothing is to be found.
      by_cases ho : other = id
      · have hsome : ((ofRegistrations rest).entries.lookup id).isSome = true :=
          isSome_lookup_iff.mpr (ho ▸ hmem)
        obtain ⟨found, hfound⟩ := Option.isSome_iff_exists.mp hsome
        rw [get?, hfound, Option.some_or]
      · simp [get?, lookup_cons, ho]
    · rw [List.lookup_append, get?]

theorem ext {r r' : Registry F V} (h : r.entries = r'.entries) : r = r' := by
  cases r; cases r'; simp_all

theorem ofRegistrations_entries (r : Registry F V) : ofRegistrations r.entries = r := by
  apply ext
  obtain ⟨entries, hnodup⟩ := r
  dsimp only
  induction entries using List.reverseRecOn with
  | nil => rfl
  | append_singleton rest last ih =>
    obtain ⟨id, e⟩ := last
    rw [List.map_append, List.nodup_append] at hnodup
    obtain ⟨hrest, -, hfresh⟩ := hnodup
    have hentries := ih hrest
    have hnot : id ∉ (ofRegistrations rest).ids := by
      intro hid
      rw [ids, hentries] at hid
      exact hfresh id hid id (by simp) rfl
    rw [ofRegistrations_concat, entries_tryRegister, if_neg hnot, hentries]

end Registry

end CreationLoader
