import CreationLoader.Browser.Factory
import CreationLoader.Config
import CreationLoader.Registry
import CreationLoader.Script.Realm

/-!
# What scripts hand over

Registries, configurations and parameters are taken from script values. Parameters stay the
very values that the page has written.
-/

namespace CreationLoader.Browser
open Script

section
variable {ν F : Type}

/-- The own properties of a value as parameters; undefined and null give none. What is thrown when
they are listed is not caught. -/
def paramsOf (realm : Realm ν) (v : ν) : Except String (Option (Params ν)) :=
  match realm.kind v with
  | .undefined | .null => .ok none
  | _ => (realm.entries v).map fun entries => some (Params.ofList entries)

/-- The defaults of a creation. If the property cannot be read, it is as good as none. -/
def defaultsOf (realm : Realm ν) (v : ν) : Except String (Option (Params ν)) :=
  (realm.get? v "defaults").elim (.ok none) (paramsOf realm)

/-- The factory and the defaults of a creation, if it has a factory. -/
def creationOf (realm : Realm ν) (v : ν) : Except String (Option (ν × Params ν)) :=
  match realm.get? v "factory" with
  | none => .ok none
  | some factory =>
    if realm.kind factory = .function then
      (defaultsOf realm v).map fun defaults => some (factory, defaults.getD ∅)
    else .ok none

/-- Registers creations in order, up to the first that cannot be registered. What is called to make
instances is made of the factory of a creation. -/
def registerAll {σ κ : Type} (realm : Realm ν) (make : ν → F) (r : Registry F ν) :
    List (String × ν) → Action σ κ (Except String (Registry F ν))
  | [] => return .ok r
  | (id, v) :: rest => do
    match creationOf realm v with
    | .error thrown => return .error thrown
    | .ok none => return .error ("Invalid registry: creation " ++ id ++ " has no factory")
    | .ok (some (factory, defaults)) =>
      match ← r.registerReporting id (make factory) defaults with
      | .error e => return .error ("Invalid registry: " ++ e.message)
      | .ok r => registerAll realm make r rest

/-- A registry from an object that has a creation under each id. -/
def readRegistry {σ κ : Type} (realm : Realm ν) (make : ν → F) (v : ν) :
    Action σ κ (Except String (Registry F ν)) :=
  match realm.kind v with
  | .object =>
    match realm.entries v with
    | .error thrown => return .error thrown
    | .ok entries => registerAll realm make ∅ entries
  | _ => return .error "Invalid registry: expected an object"

end

/-- Numbers in messages about types: never with an exponent, and always with a point. -/
def messageLayout : Decimal.Layout :=
  { least := -400, greatest := 400, keepsFraction := true, signsZero := true }

def messageNumber (x : Float) : String :=
  match messageLayout.finite? x with
  | some cs => String.ofList cs
  | none => if x.isNaN then "NaN" else if x < 0 then "-inf" else "inf"

/-- A value that is not of the type asked for, as it is named in the message. -/
def unexpected (heap : Heap) (v : Value) : String :=
  match v with
  | .undefined | .null => "unit value"
  | .bool b => "boolean `" ++ (if b then "true" else "false") ++ "`"
  | .number x => "floating point `" ++ messageNumber x ++ "`"
  | .string s => "string " ++ Text.quoted s
  | v => heap.dump v

def invalidType (heap : Heap) (v : Value) (expected : String) : String :=
  "Error: invalid type: " ++ unexpected heap v ++ ", expected " ++ expected

def readText (heap : Heap) : Value → Except String String
  | .string s => .ok s
  | v => .error (invalidType heap v "a string")

def readTexts (heap : Heap) (v : Value) : Except String (List String) :=
  match heap.view v with
  | .array items => items.mapM (readText heap)
  | .primitive => .error "TypeError: Reflect.get called on non-object"
  | _ => .error (invalidType heap v "a sequence")

def optional {α : Type} (heap : Heap) (v : Value) (name : String)
    (read : Value → Except String α) : Except String (Option α) :=
  if heap.hasProperty v name then (read (heap.property v name)).map some else .ok none

/-- A configuration from the properties of an object; undefined and null give the default. -/
def readConfig (heap : Heap) (v : Value) : Except String Config :=
  let read : Except String Config :=
    match v with
    | .undefined | .null => .ok {}
    | v =>
      if heap.isObject v then do
        let domains ← optional heap v "allowedDomains" (readTexts heap)
        let url ← optional heap v "polyfillUrl" (readText heap)
        .ok ⟨(domains.map AllowList.mk).getD {}, url.getD defaultPolyfillUrl⟩
      else .error (invalidType heap v "struct LoaderConfig")
  read.mapError ("Invalid loader config: " ++ ·)

end CreationLoader.Browser
