import CreationLoader.Decimal.Shortest

/-!
# Layouts of decimal numbers

How the shortest digits of a double are laid out as text. Each format that writes numbers
has a layout of its own: which magnitudes are written in positional notation, whether whole
numbers keep a fraction, and whether zero keeps its sign.
-/

namespace CreationLoader.Decimal

structure Layout where
  /-- The least decimal exponent that is written in positional notation. -/
  least : Int
  /-- The greatest decimal exponent that is written in positional notation. -/
  greatest : Int
  /-- Whether whole numbers in positional notation end in `.0`. -/
  keepsFraction : Bool
  /-- Whether negative zero is written with its sign. -/
  signsZero : Bool

def digitsOf (n : Nat) : List Char := Nat.toDigits 10 n

theorem digitsOf_ne_nil (n : Nat) : digitsOf n ≠ [] := Nat.toDigits_ne_nil

theorem mem_digitsOf {n : Nat} {c : Char} (h : c ∈ digitsOf n) : '0' ≤ c ∧ c ≤ '9' := by
  have hdigit := Nat.isDigit_of_mem_toDigits (by decide) (by decide) h
  simpa [Char.isDigit, Char.le_def] using hdigit

/-- No digits but those of zero begin with a zero. -/
theorem head?_digitsOf {n : Nat} (h : 0 < n) : (digitsOf n).head? ≠ some '0' := by
  unfold digitsOf
  induction n using Nat.strongRecOn with
  | ind n ih =>
    by_cases hn : n < 10
    · rw [Nat.toDigits_of_lt_base hn]
      intro hzero
      have hchar : n.digitChar.toNat = 48 := congrArg Char.toNat (Option.some.inj hzero)
      rw [Nat.toNat_digitChar_of_lt_ten hn] at hchar
      omega
    · have hleading := ih (n / 10) (by omega) (by omega)
      have hne : Nat.toDigits 10 (n / 10) ≠ [] := Nat.toDigits_ne_nil
      rw [Nat.toDigits_of_base_le (by decide) (by omega)]
      cases hs : Nat.toDigits 10 (n / 10) with
      | nil => exact absurd hs hne
      | cons c s => rwa [hs] at hleading

theorem ofDigitChars_digitsOf (n : Nat) : Nat.ofDigitChars 10 (digitsOf n) 0 = n :=
  Nat.ofDigitChars_ten_toDigits

/-- Digits with a point `whole` places after the first digit's left edge. -/
def positional (digits : List Char) (whole : Int) (keepsFraction : Bool) : List Char :=
  let fraction (cs : List Char) : List Char :=
    if cs.isEmpty then (if keepsFraction then ['.', '0'] else []) else '.' :: cs
  if whole ≤ 0 then
    '0' :: fraction (List.replicate (-whole).toNat '0' ++ digits)
  else
    let padded := digits ++ List.replicate (whole.toNat - digits.length) '0'
    padded.take whole.toNat ++ fraction (padded.drop whole.toNat)

/-- Digits with one place before the point and an explicit, signed exponent. -/
def scientific (digits : List Char) (exponent : Int) : List Char :=
  let tail := digits.drop 1
  digits.take 1 ++ (if tail.isEmpty then [] else '.' :: tail) ++
    ['e', if exponent < 0 then '-' else '+'] ++ digitsOf exponent.natAbs

/-- The text of a positive decimal. -/
def Layout.magnitude (l : Layout) (d : Scaled) : List Char :=
  let digits := digitsOf d.digits
  let exponent := d.exponent + digits.length - 1
  if l.least ≤ exponent ∧ exponent ≤ l.greatest then
    positional digits (exponent + 1) l.keepsFraction
  else
    scientific digits exponent

/-- The text of a finite double; none for an infinity and for what is no number. -/
def Layout.finite? (l : Layout) (x : Float) : Option (List Char) :=
  let signed (negative : Bool) (cs : List Char) := if negative then '-' :: cs else cs
  match Kind.ofBits x.toBits with
  | .nan | .infinite _ => none
  | .zero negative =>
    some (signed (negative && l.signsZero) (if l.keepsFraction then ['0', '.', '0'] else ['0']))
  | .nonzero negative d => some (signed negative (l.magnitude d.shortest))

end CreationLoader.Decimal
