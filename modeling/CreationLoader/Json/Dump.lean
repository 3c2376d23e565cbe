import CreationLoader.AllowList
import CreationLoader.Json.Fault

/-!
# Dumps of values

The form in which values are shown to a person who looks for a fault: every value is
labelled with its kind.
-/

namespace CreationLoader.Json

mutual

def Value.dump : Value → String
  | .null => "Null"
  | .bool b => "Bool(" ++ (if b then "true" else "false") ++ ")"
  | .number n => "Number(" ++ String.ofList n.text ++ ")"
  | .string s => "String(" ++ Text.quoted s ++ ")"
  | .array items => "Array " ++ Text.bracketed (dumpItems items)
  | .object members => "Object " ++ Text.braced (dumpMembers members)

def dumpItems : List Value → List String
  | [] => []
  | v :: rest => v.dump :: dumpItems rest

def dumpMembers : List (String × Value) → List String
  | [] => []
  | (name, v) :: rest => (Text.quoted name ++ ": " ++ v.dump) :: dumpMembers rest

end

end CreationLoader.Json

namespace CreationLoader

def Params.dump (p : Params Json.Value) : String := Text.braced (Json.dumpMembers p.entries)

def AllowList.dump (l : AllowList) : String :=
  "AllowList(" ++ Text.bracketed (l.domains.map Text.quoted) ++ ")"

end CreationLoader
