import CreationLoader.AllowList
import CreationLoader.Text.Quoted

/-!
# Loader configuration

Which hosts a loader serves, and where the polyfill for shadow DOM is loaded from.
-/

namespace CreationLoader

/-- The polyfill that is loaded where a configuration names no other. -/
def defaultPolyfillUrl : String :=
  "https://cdnjs.cloudflare.com/ajax/libs/webcomponentsjs/1.0.14/webcomponents-sd-ce.js"

structure Config where
  allowedDomains : AllowList := .unrestricted
  polyfillUrl : String := defaultPolyfillUrl
  deriving DecidableEq, Repr, Inhabited

namespace Config

def secure (c : Config) (domains : List String) : Config :=
  { c with allowedDomains := ⟨domains⟩ }

def withPolyfillUrl (c : Config) (url : String) : Config := { c with polyfillUrl := url }

end Config

end CreationLoader
