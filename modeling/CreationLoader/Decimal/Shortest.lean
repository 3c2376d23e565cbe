/-!
# Shortest decimal digits

The fewest decimal digits that read back as the same double. Of several decimals with that
many digits the nearest to the double is taken, and of two equally near ones the even one.

A positive finite double is a significand times a power of two. The reals that round to it
form an interval around it, whose ends belong to it when the significand is even. All
comparisons are made between natural numbers.
-/

namespace CreationLoader.Decimal

/-- The positive number `significand * 2 ^ exponent`, as a double holds it. `narrowBelow`
says that the next double below is only half as far away as the next above. -/
structure Dyadic where
  significand : Nat
  exponent : Int
  narrowBelow : Bool
  deriving DecidableEq, Repr

/-- The decimal number `digits * 10 ^ exponent`. -/
structure Scaled where
  digits : Nat
  exponent : Int
  deriving DecidableEq, Repr

/-- What a double is, by its bits. -/
inductive Kind
  | nan
  | infinite (negative : Bool)
  | zero (negative : Bool)
  | nonzero (negative : Bool) (magnitude : Dyadic)
  deriving DecidableEq, Repr

/-- Takes a double's bits apart: one for the sign, eleven for the exponent, the others for
the fraction. -/
def Kind.ofBits (bits : UInt64) : Kind :=
  let n := bits.toNat
  let negative := decide (n / Nat.pow 2 63 = 1)
  let exponent : Nat := n / Nat.pow 2 52 % Nat.pow 2 11
  let fraction : Nat := n % Nat.pow 2 52
  if exponent = 2047 then
    if fraction = 0 then .infinite negative else .nan
  else if exponent = 0 then
    if fraction = 0 then .zero negative else .nonzero negative ⟨fraction, -1074, false⟩
  else
    .nonzero negative
      ⟨Nat.pow 2 52 + fraction, (exponent : Int) - 1075, decide (fraction = 0 ∧ 1 < exponent)⟩

namespace Dyadic

/-- The multiple of `10 ^ e` nearest to the number among those that read back as it, if
there is one. With `up / down` the value of a quarter of the last place in units of
`10 ^ e`, the number is `4 * significand * up / down` such units. -/
def onGrid? (d : Dyadic) (e : Int) : Option Nat :=
  let up := Nat.pow 2 (d.exponent - 2).toNat * Nat.pow 10 (-e).toNat
  let down := Nat.pow 2 (2 - d.exponent).toNat * Nat.pow 10 e.toNat
  let value := 4 * d.significand * up
  let low := (4 * d.significand - if d.narrowBelow then 1 else 2) * up
  let high := (4 * d.significand + 2) * up
  let readsBack (c : Nat) : Bool :=
    if d.significand % 2 = 0 then decide (low ≤ c * down ∧ c * down ≤ high)
    else decide (low < c * down ∧ c * down < high)
  let floor := value / down
  let rest := value % down
  match readsBack floor, readsBack (floor + 1) with
  | false, false => none
  | true, false => some floor
  | false, true => some (floor + 1)
  | true, true =>
    if 2 * rest < down then some floor
    else if down < 2 * rest then some (floor + 1)
    else some (if floor % 2 = 0 then floor else floor + 1)

/-- Tries ever finer grids, from `10 ^ e` on. -/
def shortestFrom (d : Dyadic) : (tries : Nat) → (e : Int) → Scaled
  | 0, e => ⟨(d.onGrid? e).getD 0, e⟩
  | tries + 1, e =>
    match d.onGrid? e with
    | some digits => ⟨digits, e⟩
    | none => d.shortestFrom tries (e - 1)

/-- The shortest decimal that reads back as the number. The first grid tried is coarser
than the number itself, and a grid with seventeen digits always has a hit. -/
def shortest (d : Dyadic) : Scaled :=
  let bits : Int := d.exponent + d.significand.log2 + 1
  d.shortestFrom 24 (bits * 30103 / 100000 + 1)

end Dyadic

end CreationLoader.Decimal
