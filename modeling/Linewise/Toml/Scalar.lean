/-
Numbers, dates and times as settings documents write them.

A number ends where a blank, a comma, a bracket or a comment begins. What begins like a date or a time has to be one;
anything else that begins with a digit has to be a number.
-/
import Linewise.Text.Blank
import Linewise.Toml.Quoted
import Linewise.Toml.Value

namespace Linewise.Toml

/-! ### Numbers -/

/-- a character that ends a number -/
def endsNumber (c : Char) : Bool := " \t\n\r#,]".toList.contains c || c == '\x7d'

/-- underscores between two characters of the class are left out -/
def dropUnderscores (p : Char → Bool) : Option Char → Text → Text
  | _, [] => []
  | before, '_' :: rest =>
    if before.any p && rest.head?.any p then dropUnderscores p (some '_') rest
    else '_' :: dropUnderscores p (some '_') rest
  | _, c :: rest => c :: dropUnderscores p (some c) rest

/-- the digits of a base other than ten -/
def isDigitIn (base : Nat) (c : Char) : Bool :=
  if base = 2 then c == '0' || c == '1'
  else if base = 8 then '0' ≤ c && c ≤ '7'
  else c.isDigit || ('a' ≤ c && c ≤ 'f') || ('A' ≤ c && c ≤ 'F')

/-- the base that a number's beginning announces, and the letter that marks it; decimal numbers have none -/
def markedBase? : Text → Option (Nat × Char)
  | '0' :: 'b' :: _ => some (2, 'b')
  | '0' :: 'o' :: _ => some (8, 'o')
  | '0' :: 'x' :: _ => some (16, 'x')
  | _ => none

/-- what may follow a leading zero -/
def zeroMayStand : Text → Bool
  | '0' :: c :: _ => ".oxbeE".toList.contains c
  | _ => true

/-- a whole number of a base other than ten -/
def readBased? (base : Nat) (mark : Char) (raw : Text) : Option Value :=
  let clean := dropUnderscores (isDigitIn base) none raw
  if clean.contains '_' then none else (Integer.readMarked? base mark clean).map .int

/-- a decimal number with its sign apart: a whole number, or a fraction if a point, an exponent or a word says so -/
def readDecimalNumber? (sign raw : Text) : Option Value :=
  let clean := (dropUnderscores Char.isDigit none raw).map Char.toLower
  let signed := sign ++ clean
  if clean.contains '_' || clean.getLast? = some '.' || (clean.takeWhile (· != 'e')).getLast? = some '.' then none
  else
    match Integer.read? signed with
    | some n => some (.int n)
    | none =>
      if clean.any (fun c => c == '.' || c == 'e') || raw = "inf".toList || raw = "nan".toList then
        (Binary64.read? (Integer.withoutMargins signed)).map .float
      else none

/-- a number -/
def readNumber? (t : Text) : Option Value :=
  let (sign, raw) := t.splitAt (if t.head? = some '+' || t.head? = some '-' then 1 else 0)
  if raw.length > 1 && (!zeroMayStand raw || (!sign.isEmpty && raw.head? = some '.')) then none
  else
    match markedBase? raw with
    | some (base, mark) => if sign.isEmpty then readBased? base mark raw else none
    | none => readDecimalNumber? sign raw

/-! ### Dates and times -/

/-- exactly `n` ASCII digits, as a number -/
def fixedDigits? (n : Nat) (t : Text) : Option (Nat × Text) :=
  let digits := t.take n
  if digits.length = n && digits.all Char.isDigit then (readDecimal? 0 digits).map fun d => (d, t.drop n) else none

/-- the text without a character it must begin with -/
def expect? (c : Char) : Text → Option Text
  | [] => none
  | d :: rest => if d = c then some rest else none

/-- a day, as `year-month-day` -/
def readDay? (t : Text) : Option (Day × Text) := do
  let (year, rest) ← fixedDigits? 4 t
  let rest ← expect? '-' rest
  let (month, rest) ← fixedDigits? 2 rest
  let rest ← expect? '-' rest
  let (day, rest) ← fixedDigits? 2 rest
  return (⟨year, month, day⟩, rest)

/-- the fraction of a second after its point, in millionths: six digits count -/
def readFraction? : Text → Option (Nat × Text)
  | '.' :: more => do
    let digits := more.takeWhile Char.isDigit
    if digits.isEmpty then none
    let micro ← readDecimal? 0 ((digits ++ List.replicate 6 '0').take 6)
    return (micro, more.dropWhile Char.isDigit)
  | t => some (0, t)

/-- a time of day, as `hour:minute`, perhaps with seconds, and these perhaps with a fraction -/
def readClock? (t : Text) : Option (Clock × Text) := do
  let (hour, rest) ← fixedDigits? 2 t
  let rest ← expect? ':' rest
  let (minute, rest) ← fixedDigits? 2 rest
  match rest with
  | ':' :: more =>
    let (second, rest) ← fixedDigits? 2 more
    let (micro, rest) ← readFraction? rest
    return (⟨hour, minute, second, micro⟩, rest)
  | _ => return (⟨hour, minute, 0, 0⟩, rest)

/-- the distance from universal time, if one is given -/
def readZone? : Text → Option (Option Zone)
  | [] => some none
  | ['Z'] => some (some .universal)
  | ['z'] => some (some .universal)
  | c :: rest => do
    if !Zone.isMark c then none
    let (hours, rest) ← fixedDigits? 2 rest
    let rest ← expect? ':' rest
    let (minutes, rest) ← fixedDigits? 2 rest
    if hours ≤ 23 && minutes ≤ 59 && rest.isEmpty then some (some (.offset c hours minutes)) else none

/-- a text looks like a date or a time, whether or not it is a valid one -/
def looksLikeMoment (raw : Text) : Bool := (readDay? raw).isSome || (readClock? raw).isSome

/-- a date with a time after a separator -/
def readDateTime? (raw : Text) : Option Moment := do
  let (day, rest) ← readDay? raw
  match rest with
  | [] => none
  | c :: rest =>
    if c != 'T' && c != 't' && c != ' ' then none
    let (clock, rest) ← readClock? rest
    let zone ← readZone? rest
    if day.valid && clock.valid then some (.dateTime day clock zone) else none

/-- a date alone -/
def readDate? (raw : Text) : Option Moment := do
  let (day, rest) ← readDay? raw
  if day.valid && rest.isEmpty then some (.date day) else none

/-- a time of day alone -/
def readTime? (raw : Text) : Option Moment := do
  let (clock, rest) ← readClock? raw
  if clock.valid && rest.isEmpty then some (.time clock) else none

/-! ### Values by their beginning -/

/-- a value that begins with a digit: a number, a date or a time; a date may be followed by a space and a time -/
def readDigitValue (t : Text) : Except Stop (Value × Text) :=
  let raw := t.takeWhile fun c => !endsNumber c
  let rest := t.dropWhile fun c => !endsNumber c
  if !looksLikeMoment raw then
    match readNumber? raw with
    | some v => .ok (v, rest)
    | none => stop .badNumber rest
  else
    match readDate? raw with
    | some date =>
      let ends := fun c => endsNumber c && c != ' '
      let more := Text.dropEndWhile isBlank (rest.takeWhile fun c => !ends c)
      let after := rest.dropWhile fun c => !ends c
      if more.isEmpty then .ok (.moment date, after)
      else
        match readDateTime? (raw ++ more) with
        | some m => .ok (.moment m, after)
        | none => stop .badMoment after
    | none =>
      match (readDateTime? raw).or (readTime? raw) with
      | some m => .ok (.moment m, rest)
      | none => stop .badMoment rest

/-- a value that begins with a sign, or with a word for infinity or for no number -/
def readSignedValue (t : Text) : Except Stop (Value × Text) :=
  let raw := t.takeWhile fun c => !endsNumber c
  let rest := t.dropWhile fun c => !endsNumber c
  match readNumber? raw with
  | some v => .ok (v, rest)
  | none => stop .badNumber rest

/-- a word that must stand here -/
def readWord (word : Text) (v : Value) (t : Text) : Except Stop (Value × Text) :=
  if t.startsWith word then .ok (v, t.drop word.length) else stopAt t

end Linewise.Toml
