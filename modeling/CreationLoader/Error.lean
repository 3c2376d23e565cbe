import CreationLoader.Text.Quoted

/-!
# Errors

What can go wrong when creations are registered, when a handle is constructed, and when a
creation is bound to the elements of a page. Errors that abort a call before it has started
anything are also written to the console, as one diagnostic line.
-/

namespace CreationLoader

inductive LoaderError
  | domainRestricted (hostname : String)
  | unknownCreation (id : String)
  | targetNotFound (selector : String)
  | polyfillFailed (url reason : String)
  | instantiationFailed (id reason : String)
  deriving DecidableEq, Repr, Inhabited

namespace LoaderError

def message : LoaderError → String
  | domainRestricted hostname => "Domain restricted: " ++ hostname ++ " is not an allowed host"
  | unknownCreation id => "Creation " ++ id ++ " not found"
  | targetNotFound selector => "Element " ++ selector ++ " not found in the document"
  | polyfillFailed url reason => "Failed to load polyfill from " ++ url ++ ": " ++ reason
  | instantiationFailed id reason => "Failed to instantiate creation " ++ id ++ ": " ++ reason

/-- The line written to the console. Only the errors that abort a call have one. -/
def diagnostic : LoaderError → Option String
  | domainRestricted _ => some "Wooble error : domain restricted"
  | unknownCreation id => some ("Wooble error : creation " ++ id ++ " not found")
  | targetNotFound selector =>
    some ("Wooble error : Element " ++ selector ++ " not found in the document")
  | polyfillFailed .. | instantiationFailed .. => none

def label : LoaderError → String
  | domainRestricted _ => "DomainRestricted"
  | unknownCreation _ => "UnknownComponentId"
  | targetNotFound _ => "TargetNotFound"
  | polyfillFailed .. => "PolyfillLoadFailed"
  | instantiationFailed .. => "Instantiation"

def fields : LoaderError → List (String × String)
  | domainRestricted hostname => [("hostname", hostname)]
  | unknownCreation id => [("id", id)]
  | targetNotFound selector => [("selector", selector)]
  | polyfillFailed url reason => [("url", url), ("reason", reason)]
  | instantiationFailed id reason => [("id", id), ("reason", reason)]

def dump (e : LoaderError) : String :=
  Text.labelled e.label (e.fields.map fun f => (f.1, Text.quoted f.2))

end LoaderError

inductive RegistryError
  | duplicate (id : String)
  deriving DecidableEq, Repr, Inhabited

namespace RegistryError

def message : RegistryError → String
  | duplicate id => "Creation " ++ id ++ " is already registered"

def label : RegistryError → String
  | duplicate _ => "DuplicateComponent"

def dump : RegistryError → String
  | e@(duplicate id) => Text.labelled e.label [("id", Text.quoted id)]

end RegistryError

end CreationLoader
