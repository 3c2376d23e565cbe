import CreationLoader.Action
import CreationLoader.Params.Basic

/-!
# Parameters in a store

Where sets of parameters are held in a store, each at its place, many may refer to the same
set. Merging then takes a copy of the defaults to a place of its own, and lays the overrides
over the copy in place, one after the other.
-/

namespace CreationLoader.Params
variable {κ α : Type}

/-- Sets of parameters, each known by its place. -/
abbrev Store (α : Type) := List (Params α)

namespace Store

/-- Puts parameters at a new place, and gives the place. -/
def add (p : Params α) : Action (Store α) κ Nat := do
  let store ← Action.get
  Action.modify fun store => store ++ [p]
  return store.length

/-- Lays one override over what stands at a place. It is reported if there is no default of its
name. -/
def override (place : Nat) (name : String) (value : α) : Action (Store α) κ Unit := do
  if ((← Action.get)[place]?).any (·.contains name) then
    Action.modify fun store => store.modify place (·.insert name value)
  else Action.report (.overrideIgnored name)

def overrideAll (place : Nat) : List (String × α) → Action (Store α) κ Unit
  | [] => pure ()
  | (name, value) :: rest => do
    override place name value
    overrideAll place rest

/-- Merges the overrides at one place over the defaults at another, which may be the same, and
gives the place of what is merged. -/
def merge (defaults overrides : Nat) : Action (Store α) κ (Option Nat) := do
  let store ← Action.get
  match store[defaults]?, store[overrides]? with
  | some d, some o =>
    let place ← add d
    overrideAll place o.entries
    return some place
  | _, _ => return none

end Store

end CreationLoader.Params
