/-
Binary floating-point numbers of 64 bits, as exact values.

A finite number is a sign, a mantissa below 2^53 and an exponent of two of at least -1074. `nearest` gives the number
closest to a fraction, a tie going to the even mantissa, and infinity beyond the largest number; `ofDecimal` reads a
decimal by it. Nothing here computes in floating point.
-/
namespace Linewise

/-- a binary floating-point number of 64 bits -/
inductive Binary64 where
  | nan
  | infinite (negative : Bool)
  /-- `mantissa * 2 ^ exponent`, with this sign -/
  | finite (negative : Bool) (mantissa : Nat) (exponent : Int)
deriving DecidableEq, Repr, Inhabited

namespace Binary64

/-- two to the power of `n` -/
def pow2 (n : Nat) : Nat := Nat.pow 2 n

/-- ten to the power of `n` -/
def pow10 (n : Nat) : Nat := Nat.pow 10 n

/-- the least exponent -/
def leastExponent : Int := -1074

/-- the greatest exponent -/
def greatestExponent : Int := 971

def zero (negative : Bool) : Binary64 := .finite negative 0 leastExponent

/-- the quotient rounded to a whole number, a tie to the even one -/
def roundDiv (num den : Nat) : Nat :=
  let q := num / den
  let twice := 2 * (num % den)
  if den < twice || (twice = den && q % 2 = 1) then q + 1 else q

/-- `num / den / 2 ^ e`, rounded -/
def scaled (num den : Nat) (e : Int) : Nat :=
  if 0 ≤ e then roundDiv num (den * pow2 e.toNat) else roundDiv (num * pow2 (-e).toNat) den

/-- `2 ^ (n + e) ≤ num / den` -/
def reaches (num den : Nat) (n : Nat) (e : Int) : Bool :=
  if 0 ≤ e then den * pow2 (n + e.toNat) ≤ num else den * pow2 n ≤ num * pow2 (-e).toNat

/-- the exponent for which `num / den` has a mantissa of 53 bits, or the least one -/
def exponentFor (num den : Nat) : Int :=
  let e := (Nat.log2 num : Int) - Nat.log2 den - 52
  max leastExponent (if reaches num den 52 e then e else e - 1)

/-- the number nearest to `num / den` -/
def nearest (negative : Bool) (num den : Nat) : Binary64 :=
  if num = 0 then zero negative
  else
    let e := exponentFor num den
    let m := scaled num den e
    let (m, e) := if m = pow2 53 then (pow2 52, e + 1) else (m, e)
    if greatestExponent < e then .infinite negative else .finite negative m e

/-- the number nearest to `digits * 10 ^ exponent` -/
def ofDecimal (negative : Bool) (digits : Nat) (exponent : Int) : Binary64 :=
  let places := (Nat.log2 digits : Int) / 4 + exponent
  let magnitude := (Nat.log2 digits : Int) / 3 + exponent
  if digits = 0 || magnitude < -400 then zero negative
  else if 400 < places then .infinite negative
  else if 0 ≤ exponent then nearest negative (digits * pow10 exponent.toNat) 1
  else nearest negative digits (pow10 (-exponent).toNat)

example : ofDecimal false 1 (-1) = .finite false 7205759403792794 (-56) := by decide +kernel

end Binary64

end Linewise
