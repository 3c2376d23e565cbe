import CreationLoader.Config
import CreationLoader.Json.Dump
import CreationLoader.Json.Printer
import CreationLoader.Json.Skip

/-!
# Configuration as JSON

A configuration is written as an object with the members `allowedDomains` and
`polyfillUrl`. It is read from an object, in which either may be missing and others are
passed over, or from a list that holds the two by position.
-/

namespace CreationLoader

namespace Config

def toJson (c : Config) : Json.Value :=
  .object [("allowedDomains", c.allowedDomains.toJson), ("polyfillUrl", .string c.polyfillUrl)]

def text (c : Config) : String := c.toJson.text

def dump (c : Config) : String :=
  Text.labelled "LoaderConfig"
    [("allowed_domains", c.allowedDomains.dump), ("polyfill_url", Text.quoted c.polyfillUrl)]

structure Members where
  allowedDomains : Option AllowList := none
  polyfillUrl : Option String := none
  deriving DecidableEq, Repr, Inhabited

/-- The configuration with the members that were given, and the default for the others. -/
def ofMembers (m : Members) : Config where
  allowedDomains := m.allowedDomains.getD {}
  polyfillUrl := m.polyfillUrl.getD defaultPolyfillUrl

/-- The fault of a member that is given a second time. Blanks behind its name, and a brace
that closes the object there, count as read. -/
def duplicate (name : String) (rest : List Char) : Json.Fault :=
  let rest :=
    match Json.skipBlanks rest with
    | '\x7d' :: rest => rest
    | rest => rest
  .before (.duplicateField name) rest

/-- Reads the value of a member, whose name has been read. -/
def readMember (m : Members) (name : String) (rest : List Char) :
    Except Json.Fault (Members × List Char) := do
  if name = "allowedDomains" then
    if m.allowedDomains.isSome then .error (duplicate name rest)
    else
      let (domains, rest) ← Json.readTexts (← Json.readColon rest)
      .ok ({ m with allowedDomains := some ⟨domains⟩ }, rest)
  else if name = "polyfillUrl" then
    if m.polyfillUrl.isSome then .error (duplicate name rest)
    else
      let (url, rest) ← Json.readText (← Json.readColon rest)
      .ok ({ m with polyfillUrl := some url }, rest)
  else .ok (m, ← Json.skip (← Json.readColon rest))

def readMembers : (clock : Nat) → (first : Bool) → Members → List Char →
    Except Json.Fault (Members × List Char)
  | 0, _, _, _ => .error ⟨.endInObject, 0⟩
  | clock + 1, first, m, s => do
    match ← Json.nextMember first s with
    | .close rest => .ok (m, rest)
    | .item rest =>
      let (name, rest) ← Json.readString rest
      let (m, rest) ← readMember m name rest
      readMembers clock false m rest

/-- Reads the end of a list that has both its items. -/
def readListEnd (s : List Char) : Except Json.Fault (List Char) :=
  match Json.skipBlanks s with
  | [] => .error ⟨.endInList, 0⟩
  | ']' :: rest => .ok rest
  | ',' :: rest =>
    match Json.skipBlanks rest with
    | ']' :: rest => .error (.at .trailingComma (']' :: rest))
    | rest => .error (.at .trailingCharacters rest)
  | rest => .error (.at .trailingCharacters rest)

def readPositions (s : List Char) : Except Json.Fault (Members × List Char) := do
  match ← Json.nextItem true s with
  | .close rest => .ok ({}, rest)
  | .item rest =>
    let (domains, rest) ← Json.readTexts rest
    match ← Json.nextItem false rest with
    | .close rest => .ok ({ allowedDomains := some ⟨domains⟩ }, rest)
    | .item rest =>
      let (url, rest) ← Json.readText rest
      .ok (⟨some ⟨domains⟩, some url⟩, ← readListEnd rest)

def read (s : List Char) : Except Json.Fault (Config × List Char) :=
  match Json.skipBlanks s with
  | [] => .error ⟨.endInValue, 0⟩
  | '\x7b' :: rest => do
    let (m, rest) ← readMembers (rest.length + 1) true {} rest
    .ok (ofMembers m, rest)
  | '[' :: rest => do
    let (m, rest) ← readPositions rest
    .ok (ofMembers m, rest)
  | s => .error (Json.mismatch .config s)

def parse (text : String) : Except Json.Error Config := Json.readWhole read text

def invalidMessage (e : Json.Error) : String := "Invalid configuration: " ++ e.message

end Config

end CreationLoader
