import CreationLoader.Json.Value
import CreationLoader.Text.Quoted

/-!
# Faults in JSON texts

Why a text could not be read, and where. A fault carries the number of bytes from its
place to the end of the text; for the reader of the message this is turned into a line and
a column, counted in bytes.
-/

namespace CreationLoader.Json

inductive Expected
  | map
  | sequence
  | string
  | config
  deriving DecidableEq, Repr

def Expected.text : Expected → String
  | .map => "a map"
  | .sequence => "a sequence"
  | .string => "a string"
  | .config => "struct LoaderConfig"

inductive Found
  | null
  | bool (b : Bool)
  | number (n : Number)
  | string (s : String)
  | sequence
  | map
  deriving Repr

def Found.text : Found → String
  | .null => "null"
  | .bool b => "boolean `" ++ (if b then "true" else "false") ++ "`"
  | .number (.integer i) => "integer `" ++ String.ofList (integerText i) ++ "`"
  | .number (.float x) => "floating point `" ++ String.ofList (Number.float x).text ++ "`"
  | .string s => "string " ++ Text.quoted s
  | .sequence => "sequence"
  | .map => "map"

def Value.found : Value → Found
  | .null => .null
  | .bool b => .bool b
  | .number n => .number n
  | .string s => .string s
  | .array _ => .sequence
  | .object _ => .map

inductive Cause
  | endInValue
  | endInString
  | endInList
  | endInObject
  | expectedValue
  | expectedIdent
  | expectedColon
  | expectedListEnd
  | expectedObjectEnd
  | keyNotString
  | trailingComma
  | trailingCharacters
  | nestedTooDeep
  | invalidNumber
  | numberOutOfRange
  | controlCharacter
  | invalidEscape
  | loneSurrogate
  | unfinishedSurrogate
  | invalidType (found : Found) (expected : Expected)
  | duplicateField (name : String)
  deriving Repr

def Cause.text : Cause → String
  | .endInValue => "EOF while parsing a value"
  | .endInString => "EOF while parsing a string"
  | .endInList => "EOF while parsing a list"
  | .endInObject => "EOF while parsing an object"
  | .expectedValue => "expected value"
  | .expectedIdent => "expected ident"
  | .expectedColon => "expected `:`"
  | .expectedListEnd => "expected `,` or `]`"
  | .expectedObjectEnd => "expected `,` or `\x7d`"
  | .keyNotString => "key must be a string"
  | .trailingComma => "trailing comma"
  | .trailingCharacters => "trailing characters"
  | .nestedTooDeep => "recursion limit exceeded"
  | .invalidNumber => "invalid number"
  | .numberOutOfRange => "number out of range"
  | .controlCharacter => "control character (\\u0000-\\u001F) found while parsing a string"
  | .invalidEscape => "invalid escape"
  | .loneSurrogate => "lone leading surrogate in hex escape"
  | .unfinishedSurrogate => "unexpected end of hex escape"
  | .invalidType found expected => "invalid type: " ++ found.text ++ ", expected " ++ expected.text
  | .duplicateField name => "duplicate field `" ++ name ++ "`"

/-- Whether the text ended too early, is no JSON, or is JSON of the wrong shape. -/
inductive Category
  | eof
  | syntactic
  | data
  deriving DecidableEq, Repr

def Cause.category : Cause → Category
  | .endInValue | .endInString | .endInList | .endInObject => .eof
  | .invalidType .. | .duplicateField _ => .data
  | _ => .syntactic

def byteSize : List Char → Nat
  | [] => 0
  | c :: rest => c.utf8Size + byteSize rest

/-- A cause, and how many bytes of the text lie behind the place where it was seen. -/
structure Fault where
  cause : Cause
  remaining : Nat
  deriving Repr

/-- A fault where reading stands, with `rest` still to be read. -/
def Fault.before (cause : Cause) (rest : List Char) : Fault := ⟨cause, byteSize rest⟩

/-- A fault one byte further on, or at the end. -/
def Fault.at (cause : Cause) (rest : List Char) : Fault := ⟨cause, byteSize rest - 1⟩

structure Error where
  cause : Cause
  line : Nat
  column : Nat
  deriving Repr

/-- Line and column of a byte offset: lines count from one, columns from the byte behind
the last line break. -/
def position (text : String) (offset : Nat) : Nat × Nat :=
  let before := text.toUTF8.toList.take offset
  (1 + before.count 10, (before.reverse.takeWhile (· != 10)).length)

def Fault.locate (text : String) (f : Fault) : Error :=
  let (line, column) := position text (text.utf8ByteSize - f.remaining)
  ⟨f.cause, line, column⟩

def Error.message (e : Error) : String :=
  e.cause.text ++ " at line " ++ toString e.line ++ " column " ++ toString e.column

end CreationLoader.Json
