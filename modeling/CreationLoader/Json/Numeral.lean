import CreationLoader.Json.Fault

/-!
# JSON numbers

Reading of numbers. An integer that fits 64 bits is kept exactly. Every other number is
read as a significand of at most 64 bits and a power of ten, digits that do not fit the
significand being dropped, and the double is computed from the two by one multiplication
or division: the result need not be the double nearest to the written number.
-/

namespace CreationLoader.Json

def isDigit (c : Char) : Bool := decide ('0' ≤ c ∧ c ≤ '9')

def digitValue (c : Char) : Nat := c.toNat - '0'.toNat

/-- Appends leading digits to a significand for as long as it fits 64 bits. Gives the
significand, how many digits it took, and the rest. -/
def takeDigits (significand : Nat) : List Char → Nat × Nat × List Char
  | [] => (significand, 0, [])
  | c :: rest =>
    if isDigit c ∧ significand * 10 + digitValue c < Nat.pow 2 64 then
      let (significand, count, rest) := takeDigits (significand * 10 + digitValue c) rest
      (significand, count + 1, rest)
    else (significand, 0, c :: rest)

def powerOfTen (n : Nat) : Float := Float.ofScientific 1 false n

/-- Divides by a power of ten, in steps of at most 308 places. -/
def divideByTens (x : Float) (places : Nat) : Float :=
  if places ≤ 308 then x / powerOfTen places
  else if x == 0 then x
  else divideByTens (x / powerOfTen 308) (places - 308)
termination_by places

/-- The double for `significand * 10 ^ exponent`; none if it is too large. -/
def scaled? (significand : Nat) (exponent : Int) : Option Float :=
  let x := (UInt64.ofNat significand).toFloat
  if exponent < 0 then some (divideByTens x exponent.natAbs)
  else if exponent ≤ 308 then
    let y := x * powerOfTen exponent.natAbs
    if y.isInf then none else some y
  else if x == 0 then some x else none

/-- The number whose parts have been read, with its sign. -/
def readScaled (negative : Bool) (significand : Nat) (exponent : Int) (rest : List Char) :
    Except Fault (Number × List Char) :=
  match scaled? significand exponent with
  | some x => .ok (.float (if negative then -x else x), rest)
  | none => .error (.before .numberOutOfRange rest)

/-- Reads the digits of an exponent, of which `value` have been read. An exponent that does
not fit 31 bits gives zero or is out of range. -/
def readExponentDigits (negative : Bool) (significand : Nat) (exponent : Int)
    (negativeExponent : Bool) (value : Nat) : List Char → Except Fault (Number × List Char)
  | c :: rest =>
    if isDigit c then
      let value := value * 10 + digitValue c
      if 2 ^ 31 ≤ value then
        if significand ≠ 0 ∧ !negativeExponent then .error (.before .numberOutOfRange rest)
        else .ok (.float (if negative then -0.0 else 0.0), rest.dropWhile isDigit)
      else readExponentDigits negative significand exponent negativeExponent value rest
    else
      readScaled negative significand
        (if negativeExponent then exponent - value else exponent + value) (c :: rest)
  | [] =>
    readScaled negative significand
      (if negativeExponent then exponent - value else exponent + value) []

def readExponent (negative : Bool) (significand : Nat) (exponent : Int) (s : List Char) :
    Except Fault (Number × List Char) :=
  let (negativeExponent, s) :=
    match s with
    | '+' :: rest => (false, rest)
    | '-' :: rest => (true, rest)
    | _ => (false, s)
  match s with
  | [] => .error ⟨.endInValue, 0⟩
  | c :: rest =>
    if isDigit c then
      readExponentDigits negative significand exponent negativeExponent (digitValue c) rest
    else .error (.at .invalidNumber s)

def readTail (negative : Bool) (significand : Nat) (exponent : Int) (s : List Char) :
    Except Fault (Number × List Char) :=
  match s with
  | 'e' :: rest | 'E' :: rest => readExponent negative significand exponent rest
  | _ => readScaled negative significand exponent s

/-- Reads what follows the point of a number. Digits that do not fit are skipped. -/
def readFraction (negative : Bool) (significand : Nat) (exponent : Int) (s : List Char) :
    Except Fault (Number × List Char) :=
  let (significand, count, rest) := takeDigits significand s
  match rest with
  | [] =>
    if count = 0 then .error ⟨.endInValue, 0⟩
    else readTail negative significand (exponent - count) rest
  | c :: _ =>
    if count = 0 ∧ !isDigit c then .error (.at .invalidNumber rest)
    else readTail negative significand (exponent - count) (rest.dropWhile isDigit)

def readPoint (negative : Bool) (significand : Nat) (exponent : Int) (s : List Char) :
    Except Fault (Number × List Char) :=
  match s with
  | '.' :: rest => readFraction negative significand exponent rest
  | _ => readTail negative significand exponent s

/-- Reads what follows integer digits that all fit: a fraction or an exponent makes the
number a double, and so does a sign on what is zero or too large for a signed integer. -/
def readInteger (negative : Bool) (significand : Nat) (s : List Char) :
    Except Fault (Number × List Char) :=
  match s with
  | '.' :: _ | 'e' :: _ | 'E' :: _ => readPoint negative significand 0 s
  | _ =>
    if !negative then .ok (.integer significand, s)
    else if significand = 0 ∨ Nat.pow 2 63 < significand then
      .ok (.float (-(UInt64.ofNat significand).toFloat), s)
    else .ok (.integer (-significand), s)

def readNumber (negative : Bool) (s : List Char) : Except Fault (Number × List Char) :=
  match s with
  | [] => .error ⟨.endInValue, 0⟩
  | c :: rest =>
    if c = '0' then
      match rest with
      | d :: _ =>
        if isDigit d then .error (.at .invalidNumber rest) else readInteger negative 0 rest
      | [] => readInteger negative 0 rest
    else if isDigit c then
      let (significand, _, rest) := takeDigits (digitValue c) rest
      let dropped := (rest.takeWhile isDigit).length
      if dropped = 0 then readInteger negative significand rest
      else readPoint negative significand dropped (rest.dropWhile isDigit)
    else .error (.at .invalidNumber s)

end CreationLoader.Json
