/-!
# Allow-list of host names

Which host names a page may have for its creations to be constructed. An empty list
allows every host.
-/

namespace CreationLoader

/-- The host names on which creations may be constructed; none listed means all. -/
structure AllowList where
  domains : List String := []
  deriving DecidableEq, Repr, Inhabited

namespace AllowList

def unrestricted : AllowList := {}

def isRestricted (l : AllowList) : Bool := !l.domains.isEmpty

/-- A host is allowed if the list is empty or names it exactly. -/
def permits (l : AllowList) (hostname : String) : Bool :=
  l.domains.isEmpty || l.domains.contains hostname

theorem permits_iff (l : AllowList) (hostname : String) :
    l.permits hostname = true ↔ l.domains = [] ∨ hostname ∈ l.domains := by
  simp [permits]

end AllowList

end CreationLoader
