import CreationLoader.AllowList
import CreationLoader.Json.Quoted
import CreationLoader.Json.Numeral

/-!
# Reading JSON

Values, typed lists and parameters are read from the characters of a text. Every reader
gives what it has read and the characters that are left. Nesting is limited: a text in
which 128 lists and objects stand inside each other is refused.

What a list or object may hold is up to the caller, who passes the reader of its items.
-/

namespace CreationLoader.Json

/-- The levels of lists and objects that a text may have. -/
def depthLimit : Nat := 127

def isBlank (c : Char) : Bool := c == ' ' || c == '\n' || c == '\t' || c == '\r'

def skipBlanks (s : List Char) : List Char := s.dropWhile isBlank

/-- Reads the remaining letters of a word whose first letter decided for it. -/
def readWord : (letters : List Char) → List Char → Except Fault (List Char)
  | [], s => .ok s
  | _ :: _, [] => .error ⟨.endInValue, 0⟩
  | letter :: letters, c :: s =>
    if c = letter then readWord letters s else .error (.at .expectedIdent (c :: s))

def readScalar (s : List Char) : Except Fault (Value × List Char) :=
  match s with
  | [] => .error ⟨.endInValue, 0⟩
  | 'n' :: rest => do .ok (.null, ← readWord ['u', 'l', 'l'] rest)
  | 't' :: rest => do .ok (.bool true, ← readWord ['r', 'u', 'e'] rest)
  | 'f' :: rest => do .ok (.bool false, ← readWord ['a', 'l', 's', 'e'] rest)
  | '"' :: rest => do
    let (text, rest) ← readString rest
    .ok (.string text, rest)
  | '-' :: rest => do
    let (n, rest) ← readNumber true rest
    .ok (.number n, rest)
  | c :: _ =>
    if isDigit c then do
      let (n, rest) ← readNumber false s
      .ok (.number n, rest)
    else .error (.at .expectedValue s)

/-- What comes next in a list or an object: its end, or one more item, both with what is
left to read. -/
inductive Next
  | close (rest : List Char)
  | item (rest : List Char)

/-- Reads up to the next item of a list. Items but the first stand behind a comma. -/
def nextItem (first : Bool) (s : List Char) : Except Fault Next :=
  match skipBlanks s with
  | [] => .error ⟨.endInList, 0⟩
  | ']' :: rest => .ok (.close rest)
  | c :: rest =>
    if first then .ok (.item (c :: rest))
    else if c = ',' then
      match skipBlanks rest with
      | [] => .error ⟨.endInValue, 0⟩
      | ']' :: rest => .error (.at .trailingComma (']' :: rest))
      | rest => .ok (.item rest)
    else .error (.at .expectedListEnd (c :: rest))

/-- Reads up to the next name of an object, and its opening quotation mark. Members but the
first stand behind a comma. -/
def nextMember (first : Bool) (s : List Char) : Except Fault Next :=
  match skipBlanks s with
  | [] => .error ⟨.endInObject, 0⟩
  | '\x7d' :: rest => .ok (.close rest)
  | c :: rest =>
    if first then
      if c = '"' then .ok (.item rest) else .error (.at .keyNotString (c :: rest))
    else if c = ',' then
      match skipBlanks rest with
      | [] => .error ⟨.endInValue, 0⟩
      | '"' :: rest => .ok (.item rest)
      | '\x7d' :: rest => .error (.at .trailingComma ('\x7d' :: rest))
      | rest => .error (.at .keyNotString rest)
    else .error (.at .expectedObjectEnd (c :: rest))

def readColon (s : List Char) : Except Fault (List Char) :=
  match skipBlanks s with
  | [] => .error ⟨.endInObject, 0⟩
  | ':' :: rest => .ok rest
  | rest => .error (.at .expectedColon rest)

section
variable {α : Type}

/-- Reads the items of a list up to its end. There are no more items than characters, so
`clock` is their number. -/
def readItems (item : List Char → Except Fault (α × List Char)) :
    (clock : Nat) → (first : Bool) → List Char → Except Fault (List α × List Char)
  | 0, _, _ => .error ⟨.endInList, 0⟩
  | clock + 1, first, s => do
    match ← nextItem first s with
    | .close rest => .ok ([], rest)
    | .item rest =>
      let (value, rest) ← item rest
      let (values, rest) ← readItems item clock false rest
      .ok (value :: values, rest)

def readMembers (value : List Char → Except Fault (α × List Char)) :
    (clock : Nat) → (first : Bool) → List Char →
      Except Fault (List (String × α) × List Char)
  | 0, _, _ => .error ⟨.endInObject, 0⟩
  | clock + 1, first, s => do
    match ← nextMember first s with
    | .close rest => .ok ([], rest)
    | .item rest =>
      let (name, rest) ← readString rest
      let rest ← readColon rest
      let (v, rest) ← value rest
      let (members, rest) ← readMembers value clock false rest
      .ok ((name, v) :: members, rest)

end

/-- Reads a value in which `depth` more levels may be opened. A repeated name in an object
keeps its first place and has its last value. -/
def readValue : (depth : Nat) → List Char → Except Fault (Value × List Char)
  | depth, s =>
    match skipBlanks s with
    | '[' :: rest =>
      match depth with
      | 0 => .error (.at .nestedTooDeep ('[' :: rest))
      | depth + 1 => do
        let (items, rest) ← readItems (readValue depth) (rest.length + 1) true rest
        .ok (.array items, rest)
    | '\x7b' :: rest =>
      match depth with
      | 0 => .error (.at .nestedTooDeep ('\x7b' :: rest))
      | depth + 1 => do
        let (members, rest) ← readMembers (readValue depth) (rest.length + 1) true rest
        .ok (.object (Params.ofList members).entries, rest)
    | s => readScalar s

/-- The fault of a value that is not of the shape asked for. A scalar is read to its end
first; a list or an object is not entered. -/
def mismatch (expected : Expected) (s : List Char) : Fault :=
  match s with
  | '[' :: _ => .before (.invalidType .sequence expected) s
  | '\x7b' :: _ => .before (.invalidType .map expected) s
  | _ =>
    match readScalar s with
    | .error fault => fault
    | .ok (value, rest) => .before (.invalidType value.found expected) rest

def readText (s : List Char) : Except Fault (String × List Char) :=
  match skipBlanks s with
  | [] => .error ⟨.endInValue, 0⟩
  | '"' :: rest => readString rest
  | s => .error (mismatch .string s)

def readTexts (s : List Char) : Except Fault (List String × List Char) :=
  match skipBlanks s with
  | [] => .error ⟨.endInValue, 0⟩
  | '[' :: rest => readItems readText (rest.length + 1) true rest
  | s => .error (mismatch .sequence s)

def readParams (s : List Char) : Except Fault (Params Value × List Char) :=
  match skipBlanks s with
  | [] => .error ⟨.endInValue, 0⟩
  | '\x7b' :: rest => do
    let (members, rest) ←
      readMembers (readValue (depthLimit - 1)) (rest.length + 1) true rest
    .ok (Params.ofList members, rest)
  | s => .error (mismatch .map s)

/-- Reads a whole text: nothing but blanks may follow what the reader has read. -/
def readWhole {α : Type} (reader : List Char → Except Fault (α × List Char)) (text : String) :
    Except Error α :=
  match reader text.toList with
  | .error fault => .error (fault.locate text)
  | .ok (value, rest) =>
    match skipBlanks rest with
    | [] => .ok value
    | rest => .error ((Fault.at .trailingCharacters rest).locate text)

def Value.parse (text : String) : Except Error Value := readWhole (readValue depthLimit) text

end CreationLoader.Json

namespace CreationLoader

def Params.parse (text : String) : Except Json.Error (Params Json.Value) :=
  Json.readWhole Json.readParams text

def AllowList.parse (text : String) : Except Json.Error AllowList :=
  (Json.readWhole Json.readTexts text).map AllowList.mk

end CreationLoader
