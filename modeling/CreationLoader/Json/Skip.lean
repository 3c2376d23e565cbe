import CreationLoader.Json.Reader

/-!
# Skipping JSON values

Values that nobody asked for are passed over. They are held to the grammar only: they may
be nested to any depth, their numbers may have any size, and a `\u` escape may stand for any
code unit. What is wrong with them is worded a little differently from a value that is read.
-/

namespace CreationLoader.Json

/-- Passes over characters up to the closing quotation mark. -/
def skipCharacters : (clock : Nat) → List Char → Except Fault (List Char)
  | 0, _ => .error ⟨.endInString, 0⟩
  | clock + 1, s =>
    match s with
    | [] => .error ⟨.endInString, 0⟩
    | '"' :: rest => .ok rest
    | '\\' :: [] => .error ⟨.endInString, 0⟩
    | '\\' :: c :: rest => do
      if c = 'u' then
        let (_, rest) ← readUnit rest
        skipCharacters clock rest
      else if ['"', '\\', '/', 'b', 'f', 'n', 'r', 't'].contains c then skipCharacters clock rest
      else .error (.at .invalidEscape (c :: rest))
    | c :: rest =>
      if c.toNat < 0x20 then .error (.before .controlCharacter s) else skipCharacters clock rest

def skipString (s : List Char) : Except Fault (List Char) := skipCharacters (s.length + 1) s

def skipExponent (s : List Char) : Except Fault (List Char) :=
  let s :=
    match s with
    | '+' :: rest | '-' :: rest => rest
    | _ => s
  match s with
  | [] => .error ⟨.invalidNumber, 0⟩
  | c :: rest =>
    if isDigit c then .ok (rest.dropWhile isDigit) else .error (.at .invalidNumber s)

def skipTail (s : List Char) : Except Fault (List Char) :=
  match s with
  | 'e' :: rest | 'E' :: rest => skipExponent rest
  | _ => .ok s

def skipWhole (s : List Char) : Except Fault (List Char) :=
  match s with
  | [] => .error ⟨.invalidNumber, 0⟩
  | c :: rest =>
    if c = '0' then
      match rest with
      | d :: _ => if isDigit d then .error (.at .invalidNumber rest) else .ok rest
      | [] => .ok rest
    else if isDigit c then .ok (rest.dropWhile isDigit)
    else .error (.at .invalidNumber s)

def skipFraction (s : List Char) : Except Fault (List Char) :=
  match s with
  | '.' :: digits =>
    let rest := digits.dropWhile isDigit
    if rest.length = digits.length then .error (.at .invalidNumber digits) else skipTail rest
  | _ => skipTail s

/-- Passes over a number whose sign has been read. -/
def skipNumber (s : List Char) : Except Fault (List Char) := do skipFraction (← skipWhole s)

def skipScalar (s : List Char) : Except Fault (List Char) :=
  match s with
  | [] => .error ⟨.endInValue, 0⟩
  | 'n' :: rest => readWord ['u', 'l', 'l'] rest
  | 't' :: rest => readWord ['r', 'u', 'e'] rest
  | 'f' :: rest => readWord ['a', 'l', 's', 'e'] rest
  | '"' :: rest => skipString rest
  | '-' :: rest => skipNumber rest
  | c :: _ => if isDigit c then skipNumber s else .error (.at .expectedValue s)

mutual

/-- Passes over a value. Every second step takes a character, which bounds the `clock`. -/
def skipValue : (clock : Nat) → List Char → Except Fault (List Char)
  | 0, _ => .error ⟨.endInValue, 0⟩
  | clock + 1, s =>
    match skipBlanks s with
    | '[' :: rest => skipItems clock true rest
    | '\x7b' :: rest => skipMembers clock true rest
    | s => skipScalar s

/-- Passes over the items of a list up to its end. -/
def skipItems : (clock : Nat) → (first : Bool) → List Char → Except Fault (List Char)
  | 0, _, _ => .error ⟨.endInList, 0⟩
  | clock + 1, first, s =>
    match skipBlanks s with
    | [] => .error ⟨.endInList, 0⟩
    | ']' :: rest => .ok rest
    | c :: rest =>
      if first then do skipItems clock false (← skipValue clock (c :: rest))
      else if c = ',' then do skipItems clock false (← skipValue clock rest)
      else .error (.at .expectedListEnd (c :: rest))

def skipMembers : (clock : Nat) → (first : Bool) → List Char → Except Fault (List Char)
  | 0, _, _ => .error ⟨.endInObject, 0⟩
  | clock + 1, first, s =>
    match skipBlanks s with
    | [] => .error ⟨.endInObject, 0⟩
    | '\x7d' :: rest => .ok rest
    | c :: rest =>
      if first ∨ c = ',' then
        match if first then c :: rest else skipBlanks rest with
        | [] => .error ⟨.endInObject, 0⟩
        | '"' :: rest => do
          let rest ← skipString rest
          let rest ← readColon rest
          skipMembers clock false (← skipValue clock rest)
        | s => .error (.at .keyNotString s)
      else .error (.at .expectedObjectEnd (c :: rest))

end

/-- Passes over the value at the head of a text. -/
def skip (s : List Char) : Except Fault (List Char) := skipValue (2 * s.length + 2) s

end CreationLoader.Json
