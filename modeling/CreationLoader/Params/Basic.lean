import CreationLoader.Association

/-!
# Named parameters

Parameters are named values, each name once, in the order in which the names were first
given. Setting a name that is already there keeps its place.

Merging lays a caller's overrides over registered defaults: the result has exactly the
names of the defaults, in their order, and an override without a default is ignored.
-/

namespace CreationLoader

/-- Named values, each name once, in the order in which the names were first given. -/
structure Params (α : Type) where
  entries : List (String × α) := []
  nodup : (entries.map Prod.fst).Nodup := by simp

namespace Params
open Association
variable {α : Type}

instance : EmptyCollection (Params α) := ⟨{}⟩
instance : Inhabited (Params α) := ⟨∅⟩

theorem ext {p q : Params α} (h : p.entries = q.entries) : p = q := by
  cases p; cases q; simp_all

def names (p : Params α) : List String := p.entries.map Prod.fst

def size (p : Params α) : Nat := p.entries.length

def isEmpty (p : Params α) : Bool := p.entries.isEmpty

def get? (p : Params α) (name : String) : Option α := p.entries.lookup name

def contains (p : Params α) (name : String) : Bool := (p.get? name).isSome

/-- Sets a name: its value is replaced in place, or the name is added at the end. -/
def insert (p : Params α) (name : String) (value : α) : Params α where
  entries := put name value p.entries
  nodup := by
    rw [map_fst_put]
    split
    · exact p.nodup
    · rename_i h
      refine List.nodup_append.2 ⟨p.nodup, by simp, ?_⟩
      intro a ha b hb
      have : b = name := by simpa using hb
      rintro rfl
      exact h (this ▸ ha)

/-- Sets the names of a list from left to right: a repeated name keeps its first place and
has its last value. -/
def ofList (entries : List (String × α)) : Params α :=
  entries.foldl (fun p e => p.insert e.1 e.2) ∅

@[simp] theorem names_empty : (∅ : Params α).names = [] := rfl

@[simp] theorem get?_empty (name : String) : (∅ : Params α).get? name = none := rfl

theorem names_nodup (p : Params α) : p.names.Nodup := p.nodup

theorem names_insert (p : Params α) (name : String) (value : α) :
    (p.insert name value).names =
      if name ∈ p.names then p.names else p.names ++ [name] :=
  map_fst_put name value p.entries

theorem get?_insert (p : Params α) (name other : String) (value : α) :
    (p.insert name value).get? other = if name = other then some value else p.get? other :=
  lookup_put name other value p.entries

theorem contains_insert (p : Params α) (name other : String) (value : α) :
    (p.insert name value).contains other = (decide (name = other) || p.contains other) := by
  by_cases h : name = other <;> simp [contains, get?_insert, h]

/-- What laying overrides over defaults gives: the merged parameters, and the names of the
overrides that were ignored. -/
structure Merge (α : Type) where
  params : Params α
  ignored : List String := []

/-- Lays one override over what is merged so far. -/
def Merge.override (m : Merge α) (name : String) (value : α) : Merge α :=
  if m.params.contains name then { m with params := m.params.insert name value }
  else { m with ignored := m.ignored ++ [name] }

/-- Lays the overrides over the defaults, in the order of the overrides. -/
def merge (defaults overrides : Params α) : Merge α :=
  overrides.entries.foldl (fun m e => m.override e.1 e.2) { params := defaults }

/-- Whether two sets hold the same names with equal values, in any order. -/
def sameBy (eq : α → α → Bool) (p q : Params α) : Bool :=
  p.size == q.size && p.entries.all fun e => (q.get? e.1).any (eq e.2)

end Params

end CreationLoader
