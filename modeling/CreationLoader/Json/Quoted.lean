import CreationLoader.Json.Fault

/-!
# JSON strings

Writing and reading of strings between quotation marks. Written strings escape quotation
marks, backslashes and control characters only.
-/

namespace CreationLoader.Json

def escaped (c : Char) : List Char :=
  match c with
  | '"' => ['\\', '"']
  | '\\' => ['\\', '\\']
  | '\x08' => ['\\', 'b']
  | '\x0c' => ['\\', 'f']
  | '\n' => ['\\', 'n']
  | '\r' => ['\\', 'r']
  | '\t' => ['\\', 't']
  | c =>
    if c.toNat < 0x10 then ['\\', 'u', '0', '0', '0'] ++ Text.hexDigits c.toNat
    else if c.toNat < 0x20 then ['\\', 'u', '0', '0'] ++ Text.hexDigits c.toNat
    else [c]

def quoted (s : String) : List Char := '"' :: s.toList.flatMap escaped ++ ['"']

def hexValue? (c : Char) : Option Nat :=
  if '0' ≤ c ∧ c ≤ '9' then some (c.toNat - '0'.toNat)
  else if 'a' ≤ c ∧ c ≤ 'f' then some (c.toNat - 'a'.toNat + 10)
  else if 'A' ≤ c ∧ c ≤ 'F' then some (c.toNat - 'A'.toNat + 10)
  else none

/-- Reads the four digits of an escaped code unit. Four bytes are taken before they are
looked at. -/
def readUnit (s : List Char) : Except Fault (Nat × List Char) :=
  if byteSize s < 4 then .error ⟨.endInString, 0⟩
  else
    match s with
    | a :: b :: c :: d :: rest =>
      match hexValue? a, hexValue? b, hexValue? c, hexValue? d with
      | some a, some b, some c, some d => .ok (((a * 16 + b) * 16 + c) * 16 + d, rest)
      | _, _, _, _ => .error ⟨.invalidEscape, byteSize s - 4⟩
    | _ => .error ⟨.invalidEscape, byteSize s - 4⟩

/-- Reads what follows `\u`: one code unit, or a high surrogate and, escaped in turn, its
low surrogate. -/
def readCodePoint (s : List Char) : Except Fault (Char × List Char) := do
  let (high, rest) ← readUnit s
  if 0xdc00 ≤ high ∧ high ≤ 0xdfff then .error (.before .loneSurrogate rest)
  else if 0xd800 ≤ high ∧ high ≤ 0xdbff then
    match rest with
    | [] => .error ⟨.endInString, 0⟩
    | '\\' :: [] => .error ⟨.endInString, 0⟩
    | '\\' :: 'u' :: rest =>
      let (low, rest) ← readUnit rest
      if 0xdc00 ≤ low ∧ low ≤ 0xdfff then
        .ok (Char.ofNat (0x10000 + (high - 0xd800) * 0x400 + (low - 0xdc00)), rest)
      else .error (.before .loneSurrogate rest)
    | '\\' :: rest => .error (.at .unfinishedSurrogate rest)
    | _ => .error (.at .unfinishedSurrogate rest)
  else .ok (Char.ofNat high, rest)

def readEscape : List Char → Except Fault (Char × List Char)
  | [] => .error ⟨.endInString, 0⟩
  | '"' :: rest => .ok ('"', rest)
  | '\\' :: rest => .ok ('\\', rest)
  | '/' :: rest => .ok ('/', rest)
  | 'b' :: rest => .ok ('\x08', rest)
  | 'f' :: rest => .ok ('\x0c', rest)
  | 'n' :: rest => .ok ('\n', rest)
  | 'r' :: rest => .ok ('\r', rest)
  | 't' :: rest => .ok ('\t', rest)
  | 'u' :: rest => readCodePoint rest
  | s => .error (.at .invalidEscape s)

/-- Reads characters up to the closing quotation mark; a string has no more characters
than the text, so `clock` is their number. -/
def readCharacters : (clock : Nat) → List Char → Except Fault (List Char × List Char)
  | 0, _ => .error ⟨.endInString, 0⟩
  | clock + 1, s =>
    match s with
    | [] => .error ⟨.endInString, 0⟩
    | '"' :: rest => .ok ([], rest)
    | '\\' :: rest => do
      let (c, rest) ← readEscape rest
      let (cs, rest) ← readCharacters clock rest
      .ok (c :: cs, rest)
    | c :: rest =>
      if c.toNat < 0x20 then .error (.before .controlCharacter rest)
      else do
        let (cs, rest) ← readCharacters clock rest
        .ok (c :: cs, rest)

def readString (s : List Char) : Except Fault (String × List Char) := do
  let (cs, rest) ← readCharacters (s.length + 1) s
  .ok (String.ofList cs, rest)

end CreationLoader.Json
