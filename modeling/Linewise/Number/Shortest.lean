/-
The shortest decimal that reads back as a given binary number.

Every decimal in the rounding interval of a number reads back as it. `shortest` tries one digit, two digits, up to
seventeen: at each step the two decimals next to the number on that grid are looked at, and the first grid with one of
them in the interval wins; of two the nearer is taken. `render` writes the digits positionally from 10^-4 to below 10^16
and with an exponent beyond.
-/
import Linewise.Number.Binary64
import Linewise.Text.Digit
import Linewise.Text.Basic

namespace Linewise

namespace Binary64

/-- a positive fraction between two fractions, all over one denominator -/
structure Interval where
  low : Nat
  value : Nat
  high : Nat
  den : Nat
  /-- the ends belong to the interval -/
  closed : Bool
deriving Repr

/-- the numbers that round to `m * 2 ^ e` -/
def interval (m : Nat) (e : Int) : Interval :=
  let below := if m = pow2 52 && leastExponent < e then 1 else 2
  let up := (e - 2).toNat
  let down := (2 - e).toNat
  ⟨(4 * m - below) * pow2 up, 4 * m * pow2 up, (4 * m + 2) * pow2 up, pow2 down, m % 2 = 0⟩

/-- a decimal of the grid: `digits * 10 ^ power`, as a fraction -/
def gridPoint (digits : Nat) (power : Int) : Nat × Nat :=
  (digits * pow10 power.toNat, pow10 (-power).toNat)

/-- the decimal lies in the interval -/
def Interval.holds (i : Interval) (digits : Nat) (power : Int) : Bool :=
  let (n, d) := gridPoint digits power
  if i.closed then decide (i.low * d ≤ n * i.den) && decide (n * i.den ≤ i.high * d)
  else decide (i.low * d < n * i.den) && decide (n * i.den < i.high * d)

/-- the first of the two decimals is at most as far from the value as the second; of equal distances the even one wins -/
def Interval.prefers (i : Interval) (lower upper : Nat) (power : Int) : Bool :=
  let (a, d) := gridPoint lower power
  let (b, _) := gridPoint upper power
  let value := 2 * i.value * d
  let middle := (a + b) * i.den
  value < middle || (value = middle && lower % 2 = 0)

/-- the decimal of one grid that reads back, if there is one -/
def Interval.onGrid (i : Interval) (power : Int) : Option Nat :=
  let lower := (i.value * pow10 (-power).toNat) / (i.den * pow10 power.toNat)
  match i.holds lower power, i.holds (lower + 1) power with
  | true, true => some (if i.prefers lower (lower + 1) power then lower else lower + 1)
  | true, false => some lower
  | false, true => some (lower + 1)
  | false, false => none

/-- the number of digits before the decimal point, zero or less if the value is below 0.1 -/
def Interval.places (i : Interval) : Nat → Int → Int
  | 0, p => p
  | fuel + 1, p =>
    if i.value * pow10 (-p).toNat < i.den * pow10 p.toNat then
      if i.den * pow10 (p - 1).toNat ≤ i.value * pow10 (1 - p).toNat then p else i.places fuel (p - 1)
    else i.places fuel (p + 1)

/-- the shortest decimal: its digits and the power of ten they are multiplied by -/
def Interval.shortest (i : Interval) (places : Int) : Nat → Nat → Nat × Int
  | 0, n => ((i.onGrid (places - n)).getD 0, places - n)
  | fuel + 1, n =>
    match i.onGrid (places - n) with
    | some digits => (digits, places - n)
    | none => i.shortest places fuel (n + 1)

/-- the exponents from which on, and below which, digits are written positionally -/
def positionalRange : Int × Int := (-4, 16)

/-- digits with the decimal point after the first `point` of them -/
def renderPositional (digits : Text) (point : Int) : Text :=
  if point ≤ 0 then "0." ++ List.replicate (-point).toNat '0' ++ digits
  else
    let whole := digits.take point.toNat
    let fraction := digits.drop point.toNat
    whole ++ List.replicate (point.toNat - digits.length) '0' ++ "." ++ if fraction.isEmpty then ['0'] else fraction

/-- digits with an exponent of at least two digits -/
def renderExponent (digits : Text) (exponent : Int) : Text :=
  let magnitude := Text.ofNat exponent.natAbs
  digits.take 1 ++ (if digits.length = 1 then [] else '.' :: digits.drop 1) ++ "e" ++
    (if exponent < 0 then "-" else "+") ++ List.replicate (2 - magnitude.length) '0' ++ magnitude

/-- the number in the fewest digits that read back -/
def render : Binary64 → Text
  | .nan => "nan"
  | .infinite negative => (if negative then "-inf" else "inf")
  | .finite negative m e =>
    let sign : Text := if negative then "-" else ""
    if m = 0 then sign ++ "0.0"
    else
      let i := interval m e
      let estimate : Int := ((Nat.log2 m : Int) + e) * 30103 / 100000 + 1
      let places := i.places 8 estimate
      let (n, power) := i.shortest places 17 1
      let all := Text.ofNat n
      let digits := Text.dropEndWhile (· == '0') all
      let exponent := power + all.length - 1
      sign ++
        if positionalRange.1 ≤ exponent && exponent < positionalRange.2 then renderPositional digits (exponent + 1)
        else renderExponent digits exponent

/-- an optional sign -/
def readSign : Text → Bool × Text
  | '-' :: rest => (true, rest)
  | '+' :: rest => (false, rest)
  | t => (false, t)

/-- decimal digits, possibly none, and what follows them -/
def readDigits (t : Text) : Text × Text := t.span isDecimal

/-- the exponent after its letter, nothing if it is malformed -/
def readExponent? : Text → Option Int
  | [] => some 0
  | c :: rest =>
    if c != 'e' && c != 'E' then none
    else
      let (negative, digits) := readSign rest
      if digits.isEmpty then none
      else (readDecimal? 0 digits).map fun n => if negative then -(n : Int) else n

/-- an unsigned decimal with digits on at least one side of its point -/
def readUnsigned? (negative : Bool) (t : Text) : Option Binary64 :=
  let (whole, rest) := readDigits t
  let (fraction, rest) := match rest with
    | '.' :: more => readDigits more
    | other => ([], other)
  if whole.isEmpty && fraction.isEmpty then none
  else do
    let exponent ← readExponent? rest
    let digits ← readDecimal? 0 (whole ++ fraction)
    return ofDecimal negative digits (exponent - fraction.length)

/-- the number that a text writes: a decimal, or the word for infinity or for no number, in letters of either case -/
def read? (t : Text) : Option Binary64 :=
  let (negative, body) := readSign t
  let word := body.map Char.toLower
  if word = "inf".toList || word = "infinity".toList then some (.infinite negative)
  else if word = "nan".toList then some .nan
  else readUnsigned? negative body

end Binary64

end Linewise
