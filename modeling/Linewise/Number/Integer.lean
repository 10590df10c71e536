/-
Whole numbers as a person writes them: blanks around, a sign, digits, and single underscores between digits.

Decimal digits may be of any script. Numbers of another base may begin with a zero and the letter that marks the base.
Only decimal numbers are limited in length.
-/
import Linewise.Text.Blank
import Linewise.Text.Digit

namespace Linewise.Integer

/-- a blank that may stand around a number; the ASCII separators may not -/
def isMargin (c : Char) : Bool := isBlank c && !(0x1c ≤ c.toNat && c.toNat ≤ 0x1f)

/-- the text without the blanks around it -/
def withoutMargins (t : Text) : Text := Text.dropEndWhile isMargin (t.dropWhile isMargin)

/-- the digits without the underscores between them; none if an underscore stands elsewhere -/
def withoutUnderscores? (t : Text) : Option Text :=
  let groups := Text.splitOn '_' t
  if groups.any List.isEmpty then none else some groups.flatten

/-- the number that a text writes by a sign and what `magnitude` reads -/
def readSigned? (magnitude : Text → Option Nat) (t : Text) : Option Int :=
  match withoutMargins t with
  | '-' :: digits => (magnitude digits).map fun n => -(n : Int)
  | '+' :: digits => (magnitude digits).map Int.ofNat
  | digits => (magnitude digits).map Int.ofNat

/-! ### Decimal numbers -/

/-- the number that decimal digits write -/
def readDigits? (t : Text) : Option Nat :=
  (withoutUnderscores? t).bind fun digits => if maxDigits < digits.length then none else readDecimal? 0 digits

/-- the decimal number that a text writes -/
def read? (t : Text) : Option Int := readSigned? readDigits? t

/-! ### Numbers of other bases -/

/-- the value of a digit: a decimal digit of any script, or an ASCII letter, in either case -/
def digitValue? (c : Char) : Option Nat :=
  match decimalDigit? c with
  | some d => some d
  | none =>
    if 'a' ≤ c && c ≤ 'z' then some (c.toNat - 87) else if 'A' ≤ c && c ≤ 'Z' then some (c.toNat - 55) else none

/-- the number that digits of a base write, most significant digit first -/
def readBase? (base : Nat) : Nat → Text → Option Nat
  | n, [] => some n
  | n, c :: rest =>
    match digitValue? c with
    | none => none
    | some d => if d < base then readBase? base (n * base + d) rest else none

/-- the text without a zero and the mark of its base, and without an underscore after them -/
def withoutMark (mark : Char) : Text → Text
  | '0' :: c :: '_' :: rest => if c.toLower = mark then rest else '0' :: c :: '_' :: rest
  | '0' :: c :: rest => if c.toLower = mark then rest else '0' :: c :: rest
  | t => t

/-- the number of a base that a text writes; the mark of the base may be left out -/
def readMarked? (base : Nat) (mark : Char) (t : Text) : Option Int :=
  readSigned? (fun digits => (withoutUnderscores? (withoutMark mark digits)).bind (readBase? base 0)) t

end Linewise.Integer
