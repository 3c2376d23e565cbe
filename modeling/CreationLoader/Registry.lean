import CreationLoader.Action
import CreationLoader.Association
import CreationLoader.Json.Dump

/-!
# Registry of creations

Creations are registered under ids, each with a factory that builds its instances and with
default parameters. An id can be registered once; a second registration is refused and
leaves the first in place. Ids are listed in the order of their registration.
-/

namespace CreationLoader

/-- A registered creation. The defaults are also the names that a caller may override. -/
structure Entry (Factory Value : Type) where
  factory : Factory
  defaults : Params Value

/-- Creations under their ids, each id once, in the order of their registration. -/
structure Registry (Factory Value : Type) where
  entries : List (String × Entry Factory Value) := []
  nodup : (entries.map Prod.fst).Nodup := by simp

namespace Registry
variable {F V : Type}

instance : EmptyCollection (Registry F V) := ⟨{}⟩
instance : Inhabited (Registry F V) := ⟨∅⟩

def ids (r : Registry F V) : List String := r.entries.map Prod.fst

def size (r : Registry F V) : Nat := r.entries.length

def isEmpty (r : Registry F V) : Bool := r.entries.isEmpty

def get? (r : Registry F V) (id : String) : Option (Entry F V) := r.entries.lookup id

def contains (r : Registry F V) (id : String) : Bool := r.ids.contains id

/-- The place of an id among the ids. Handles of one creation share the entry there. -/
def place? (r : Registry F V) (id : String) : Option Nat := r.ids.findIdx? (· == id)

/-- Whether two ids name the same shared entry; nothing if one is not registered. -/
def sameEntry? (r : Registry F V) (a b : String) : Option Bool := do
  let i ← r.place? a
  let j ← r.place? b
  pure (i == j)

/-- Adds a creation at the end, if its id is not taken. -/
def register (r : Registry F V) (id : String) (factory : F) (defaults : Params V) :
    Except RegistryError (Registry F V) :=
  if h : id ∈ r.ids then .error (.duplicate id)
  else .ok
    { entries := r.entries ++ [(id, ⟨factory, defaults⟩)]
      nodup := by
        rw [List.map_append]
        refine List.nodup_append.2 ⟨r.nodup, by simp, ?_⟩
        intro a ha b hb
        have : b = id := by simpa using hb
        rintro rfl
        exact h (this ▸ ha) }

theorem register_eq_ok_iff (r : Registry F V) (id : String) (factory : F) (defaults : Params V) :
    (∃ r', r.register id factory defaults = .ok r') ↔ id ∉ r.ids := by
  unfold register
  split <;> simp [*]

theorem ids_register {r r' : Registry F V} {id : String} {factory : F} {defaults : Params V}
    (h : r.register id factory defaults = .ok r') : r'.ids = r.ids ++ [id] := by
  unfold register at h
  split at h
  · exact nomatch h
  · obtain rfl := Except.ok.inj h
    simp [ids]

def registration (id : String) (defaults : Params V) : Event := .registered id defaults.size

/-- Adds a creation and reports that it was added. -/
def registerReporting {σ κ : Type} (r : Registry F V) (id : String) (factory : F)
    (defaults : Params V) : Action σ κ (Except RegistryError (Registry F V)) := do
  match r.register id factory defaults with
  | .error e => return .error e
  | .ok r =>
    Action.report (registration id defaults)
    return .ok r

/-- The ids of a registry, for a person who looks for a fault. -/
def dump (r : Registry F V) : String :=
  Text.labelled "ComponentRegistry" [("ids", Text.bracketed (r.ids.map Text.quoted))]

end Registry

/-- An entry whose factory is known by a name. -/
def Entry.dump (e : Entry String Json.Value) : String :=
  Text.labelled "ComponentEntry"
    [("factory", Text.quoted e.factory), ("defaults", e.defaults.dump)]

end CreationLoader
