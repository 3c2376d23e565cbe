import CreationLoader.Action
import CreationLoader.Params.Basic

/-!
# Operations on parameters

Parameters in a variable come about by operations, one after the other: names are set, a list of
named values takes the place of what was there, or overrides are laid over it. Setting a name in
place answers what stood under it.
-/

namespace CreationLoader

/-- Sets a name, as `put` does, and finds in the same pass what stood under it. -/
def Association.replace {α : Type} (name : String) (value : α) :
    List (String × α) → Option α × List (String × α)
  | [] => (none, [(name, value)])
  | (n, v) :: rest =>
    if n = name then (some v, (n, value) :: rest)
    else
      let replaced := replace name value rest
      (replaced.1, (n, v) :: replaced.2)

theorem Association.replace_eq {α : Type} (name : String) (value : α)
    (entries : List (String × α)) :
    replace name value entries = (entries.lookup name, put name value entries) := by
  induction entries with
  | nil => rfl
  | cons e rest ih =>
    by_cases h : e.1 = name
    · simp [replace, lookup_cons, put, h]
    · simp [replace, lookup_cons, put, h, ih]

namespace Params
variable {κ α : Type}

/-- Sets a name, and gives the value that it had before. -/
def replace (p : Params α) (name : String) (value : α) : Option α × Params α where
  fst := (Association.replace name value p.entries).1
  snd :=
    { entries := (Association.replace name value p.entries).2
      nodup := by
        rw [Association.replace_eq]
        exact (p.insert name value).nodup }

theorem replace_eq (p : Params α) (name : String) (value : α) :
    p.replace name value = (p.get? name, p.insert name value) := by
  have hreplaced := Association.replace_eq name value p.entries
  have hanswer : (p.replace name value).1 = p.get? name := congrArg Prod.fst hreplaced
  have hentries : (p.replace name value).2 = p.insert name value :=
    ext (congrArg Prod.snd hreplaced)
  exact Prod.ext hanswer hentries

inductive Operation (α : Type)
  /-- Sets a name, and answers what stood under it. -/
  | insert (name : String) (value : α)
  /-- Sets a name while parameters are being built. -/
  | build (name : String) (value : α)
  /-- Begins anew with what a list holds. -/
  | collect (entries : List (String × α))
  /-- Lays overrides over what is there, which is taken for the defaults. -/
  | merge (overrides : Params α)

def Operation.perform : Operation α → Action (Params α) κ (Option α)
  | insert name value => do
    let replaced := (← Action.get).replace name value
    Action.modify fun _ => replaced.2
    return replaced.1
  | build name value => do
    Action.modify fun p => (p.replace name value).2
    return none
  | collect entries => do
    Action.modify fun _ => ofList entries
    return none
  | merge overrides => do
    let merged := (← Action.get).merge overrides
    Action.reportAll (merged.ignored.map .overrideIgnored)
    Action.modify fun _ => merged.params
    return none

def performAll : List (Operation α) → Action (Params α) κ (List (Option α))
  | [] => return []
  | x :: rest => do
    let answer ← x.perform
    return answer :: (← performAll rest)

end Params

end CreationLoader
