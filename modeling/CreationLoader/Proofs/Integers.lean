import CreationLoader.Json.Printer
import CreationLoader.Proofs.Skipping

/-!
# Integers are read back

The digits that are written for an integer make a numeral, and a numeral that fits 64 bits, with or
without a sign, is read as the integer itself. No digit is dropped on the way: the number that has
been read so far never passes the number that is written.
-/

namespace CreationLoader.Json
open Decimal (digitsOf)

theorem digits_digitsOf (n : Nat) : Digits (digitsOf n) :=
  fun _ h => decide_eq_true (Decimal.mem_digitsOf h)

/-- The digits of a number spell it: a zero stands alone, and no other number begins with one. -/
theorem whole_digitsOf (n : Nat) : Whole (digitsOf n) := by
  rcases Nat.eq_zero_or_pos n with rfl | hpos
  · exact .zero
  · have hdigits := digits_digitsOf n
    have hhead := Decimal.head?_digitsOf hpos
    cases hs : digitsOf n with
    | nil => exact absurd hs (Decimal.digitsOf_ne_nil n)
    | cons c s =>
      rw [hs] at hdigits hhead
      obtain ⟨hc, hrest⟩ := List.forall_mem_cons.mp hdigits
      apply Whole.digits hc _ hrest
      rintro rfl
      exact hhead rfl

theorem numeral_integerText (i : Int) : Numeral (integerText i) := by
  have hwhole := whole_digitsOf i.natAbs
  unfold integerText
  split
  · simpa using Numeral.mk (.inr rfl) hwhole .none .none
  · simpa using Numeral.mk (.inl rfl) hwhole .none .none

theorem le_ofDigitChars (s : List Char) (m : Nat) : m ≤ Nat.ofDigitChars 10 s m := by
  induction s generalizing m with
  | nil => exact Nat.le_refl m
  | cons c s ih =>
    rw [Nat.ofDigitChars_cons]
    have hrest := ih (10 * m + (c.toNat - '0'.toNat))
    omega

/-- Digits are all taken if the number that they make fits 64 bits. -/
theorem takeDigits_append {s rest : List Char} {m : Nat} (hs : Digits s) (hr : NoDigit rest)
    (hfits : Nat.ofDigitChars 10 s m < Nat.pow 2 64) :
    takeDigits m (s ++ rest) = (Nat.ofDigitChars 10 s m, s.length, rest) := by
  induction s generalizing m with
  | nil =>
    cases rest with
    | nil => rfl
    | cons c rest => simp [takeDigits, hr c rfl]
  | cons c s ih =>
    obtain ⟨hc, hrest⟩ := List.forall_mem_cons.mp hs
    rw [Nat.ofDigitChars_cons, Nat.mul_comm] at hfits
    -- What has been read so far fits because the whole number does.
    have hnext : m * 10 + digitValue c < Nat.pow 2 64 :=
      Nat.lt_of_le_of_lt (le_ofDigitChars s _) hfits
    have hread : takeDigits (m * 10 + digitValue c) (s ++ rest) = _ := ih hrest hfits
    rw [List.cons_append, takeDigits, if_pos ⟨hc, hnext⟩, hread, Nat.ofDigitChars_cons,
      Nat.mul_comm 10]
    rfl

/-- Digits that fit 64 bits are read as an integer, whatever the sign before them. -/
theorem readNumber_digitsOf {n : Nat} {rest : List Char} (hn : n < Nat.pow 2 64) (hr : NoDigit rest)
    (negative : Bool) :
    readNumber negative (digitsOf n ++ rest) = readInteger negative n rest := by
  have hvalue := Decimal.ofDigitChars_digitsOf n
  have hwhole := whole_digitsOf n
  generalize digitsOf n = s at hvalue hwhole
  cases hwhole with
  | zero =>
    obtain rfl : 0 = n := hvalue
    cases rest with
    | nil => rfl
    | cons c rest => simp [readNumber, hr c rfl]
  | @digits c s hc hzero hs =>
    have hrest : Nat.ofDigitChars 10 s (digitValue c) = n := by
      rwa [Nat.ofDigitChars_cons, Nat.mul_zero, Nat.zero_add] at hvalue
    have hread := takeDigits_append hs hr (hrest.symm ▸ hn)
    rw [hrest] at hread
    have hdropped : (rest.takeWhile isDigit).length = 0 := by
      cases rest with
      | nil => rfl
      | cons c rest => simp [hr c rfl]
    simp [readNumber, hzero, hc, hread, hdropped]

theorem readInteger_stops {n : Nat} {rest : List Char} (hr : Stops rest) (negative : Bool) :
    readInteger negative n rest =
      if !negative then .ok (.integer n, rest)
      else if n = 0 ∨ Nat.pow 2 63 < n then .ok (.float (-(UInt64.ofNat n).toFloat), rest)
      else .ok (.integer (-n), rest) := by
  unfold readInteger
  split
  · exact absurd rfl (hr '.' rfl).2.1
  · exact absurd rfl (hr 'e' rfl).2.2.1
  · exact absurd rfl (hr 'E' rfl).2.2.2
  · rfl

/-- A number that is an integer, and fits 64 bits with or without a sign. -/
def Number.Is64Bit : Number → Prop
  | integer i => -(Nat.pow 2 63 : Int) ≤ i ∧ i < (Nat.pow 2 64 : Int)
  | float _ => False

theorem readScalar_digit {c : Char} (hc : isDigit c = true) (s : List Char) :
    readScalar (c :: s) = (readNumber false (c :: s)).map fun p => (.number p.1, p.2) := by
  have n : c ≠ 'n' := ne_of_isDigit hc rfl
  have t : c ≠ 't' := ne_of_isDigit hc rfl
  have f : c ≠ 'f' := ne_of_isDigit hc rfl
  have quote : c ≠ '"' := ne_of_isDigit hc rfl
  have minus : c ≠ '-' := ne_of_isDigit hc rfl
  rw [readScalar, if_pos hc]
  · cases readNumber false (c :: s) <;> rfl
  · exact n
  · exact t
  · exact f
  · exact quote
  · exact minus

/-- What is written for an integer that fits 64 bits is read as this integer. -/
theorem readScalar_integerText {i : Int} {rest : List Char} (hi : (Number.integer i).Is64Bit)
    (hr : Stops rest) :
    readScalar (integerText i ++ rest) = .ok (.number (.integer i), rest) := by
  obtain ⟨hlow, hhigh⟩ := hi
  have hpow : Nat.pow 2 63 = 9223372036854775808 ∧ Nat.pow 2 64 = 18446744073709551616 :=
    ⟨rfl, rfl⟩
  have hfits : i.natAbs < Nat.pow 2 64 := by omega
  unfold integerText
  split
  next hneg =>
    have hint : (-(i.natAbs : Int)) = i := by omega
    have hsigned : ¬ (i.natAbs = 0 ∨ Nat.pow 2 63 < i.natAbs) := by omega
    rw [List.cons_append, readScalar, readNumber_digitsOf hfits hr.noDigit, readInteger_stops hr,
      if_neg hsigned, hint]
    rfl
  next hneg =>
    have hint : (i.natAbs : Int) = i := by omega
    have hread := readNumber_digitsOf hfits hr.noDigit false
    rw [readInteger_stops hr, hint] at hread
    obtain ⟨c, s, hs, hc⟩ := (whole_digitsOf i.natAbs).head
    rw [hs] at hread ⊢
    rw [List.cons_append] at hread ⊢
    rw [readScalar_digit hc, hread]
    rfl

end CreationLoader.Json
