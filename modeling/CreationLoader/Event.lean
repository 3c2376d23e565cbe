import CreationLoader.Error

/-!
# Trace events

What the loader reports about its own course. Every event has a level, a message and named
fields.
-/

namespace CreationLoader

inductive Level
  | debug
  | warn
  deriving DecidableEq, Repr

def Level.text : Level → String
  | .debug => "DEBUG"
  | .warn => "WARN"

inductive Event
  /-- A creation was registered with that many default parameters. -/
  | registered (id : String) (params : Nat)
  /-- An override was dropped because there is no default of its name. -/
  | overrideIgnored (param : String)
  | constructed (id : String)
  /-- A call failed before it started anything. -/
  | aborted (error : LoaderError)
  | loadStarted (url : String)
  | loadJoined (url : String)
  | loadRetried (url : String)
  | loadFailed (url reason : String)
  | instantiating (id selector : String) (nodes : Nat)
  | creationFailed (id reason : String)
  /-- A creation was to be bound, but what was given for a selector is no text. -/
  | selectorMissing (id : String)
  | selectorRejected (selector error : String)
  deriving DecidableEq, Repr

namespace Event

def level : Event → Level
  | aborted _ | loadFailed .. | creationFailed .. | selectorMissing _ | selectorRejected .. => .warn
  | _ => .debug

def message : Event → String
  | registered .. => "registered creation"
  | overrideIgnored _ => "ignoring override with no default"
  | constructed _ => "constructed handle"
  | aborted _ => "wooble loader aborted"
  | loadStarted _ => "loading shadow DOM polyfill"
  | loadJoined _ => "joining pending polyfill load"
  | loadRetried _ => "previous polyfill load failed, retrying"
  | loadFailed .. => "polyfill failed to load"
  | instantiating .. => "instantiating creation"
  | creationFailed .. => "creation constructor failed"
  | selectorMissing _ => "init called without a selector string"
  | selectorRejected .. => "selector rejected by document"

def fields : Event → List (String × String)
  | registered id params => [("id", id), ("params", toString params)]
  | overrideIgnored param => [("param", param)]
  | constructed id => [("id", id)]
  | aborted error => [("error", error.message)]
  | loadStarted url | loadJoined url | loadRetried url => [("url", url)]
  | loadFailed url reason => [("url", url), ("reason", reason)]
  | instantiating id selector nodes =>
    [("id", id), ("selector", selector), ("nodes", toString nodes)]
  | creationFailed id reason => [("id", id), ("reason", reason)]
  | selectorMissing id => [("id", id)]
  | selectorRejected selector error => [("selector", selector), ("error", error)]

end Event

end CreationLoader
