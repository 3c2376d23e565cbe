import CreationLoader.AllowList
import CreationLoader.Json.Quoted

/-!
# Writing JSON

The compact text of a value: no blanks, members in their order.
-/

namespace CreationLoader.Json

mutual

def Value.chars : Value → List Char
  | .null => ['n', 'u', 'l', 'l']
  | .bool true => ['t', 'r', 'u', 'e']
  | .bool false => ['f', 'a', 'l', 's', 'e']
  | .number n => n.text
  | .string s => quoted s
  | .array items => '[' :: itemChars items ++ [']']
  | .object members => '\x7b' :: memberChars members ++ ['\x7d']

def itemChars : List Value → List Char
  | [] => []
  | [v] => v.chars
  | v :: w :: rest => v.chars ++ ',' :: itemChars (w :: rest)

def memberChars : List (String × Value) → List Char
  | [] => []
  | [(name, v)] => quoted name ++ ':' :: v.chars
  | (name, v) :: e :: rest => quoted name ++ ':' :: v.chars ++ ',' :: memberChars (e :: rest)

end

/-- The compact text of a value. -/
def Value.text (v : Value) : String := String.ofList v.chars

end CreationLoader.Json

namespace CreationLoader

/-- The compact JSON text of parameters. -/
def Params.text (p : Params Json.Value) : String := (Json.Value.object p.entries).text

def AllowList.toJson (l : AllowList) : Json.Value := .array (l.domains.map .string)

def AllowList.text (l : AllowList) : String := l.toJson.text

end CreationLoader
