import CreationLoader.Json.Reader

/-!
# Sources of parameters

Parameters are given either as one JSON object or as a list of names, each with the JSON
text of its value.
-/

namespace CreationLoader.Params

inductive Source
  | object (text : String)
  | pairs (pairs : List (String × String))
  deriving DecidableEq, Repr, Inhabited

/-- Reads the values of named texts, in order, up to the first that cannot be read. -/
def readPairs : List (String × String) → Except Json.Error (List (String × Json.Value))
  | [] => .ok []
  | (name, text) :: rest => do
    let value ← Json.Value.parse text
    let values ← readPairs rest
    .ok ((name, value) :: values)

def Source.read : Source → Except Json.Error (Params Json.Value)
  | object text => Params.parse text
  | pairs ps => do .ok (ofList (← readPairs ps))

end CreationLoader.Params
