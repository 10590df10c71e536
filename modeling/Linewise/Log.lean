/-
The log: records with a level, how a record is written, and which level is in force.

A level is a number, and the usual ones have names. The level in force may be set by name or by number; the name is read
without regard to case or to blanks around it.
-/
import Linewise.Style
import Linewise.Text.Blank
import Linewise.Text.Digit
import Linewise.Text.Quoted

namespace Linewise

/-- a level; greater is graver -/
abbrev Level := Int

namespace Level

def notSet : Level := 0
def trace : Level := 5
def debug : Level := 10
def info : Level := 20
def warning : Level := 30
def error : Level := 40
def critical : Level := 50

/-- the levels that have a name -/
def named : List (Level × Text) :=
  [(notSet, "NOTSET"), (trace, "TRACE"), (debug, "DEBUG"), (info, "INFO"), (warning, "WARNING"), (error, "ERROR"),
    (critical, "CRITICAL")]

/-- the name of a level -/
def name (l : Level) : Text := (named.lookup l).getD ("Level " ++ Text.ofInt l)

/-- second names, that are read but never written -/
def aliases : List (Text × Level) := [("WARN", warning), ("FATAL", critical)]

/-- the level with a name -/
def ofName? (t : Text) : Option Level := (named.map Prod.swap ++ aliases).lookup t

/-- the style in which records of a level are written -/
def style (l : Level) : Style :=
  if critical ≤ l then ⟨[91], [39]⟩
  else if error ≤ l then ⟨[31], [39]⟩
  else if warning ≤ l then ⟨[33], [39]⟩
  else if info ≤ l then ⟨[32], [39]⟩
  else if debug ≤ l then ⟨[90], [39]⟩
  else if trace ≤ l then ⟨[34], [39]⟩
  else ⟨[2, 31], [22, 39]⟩

/-! ### Reading a level -/

/-- why a level written as a number cannot be read -/
inductive Fault where
  /-- a digit that is not a decimal one -/
  | notDecimal (text : Text)
  | tooManyDigits (count : Nat)
deriving DecidableEq, Repr, Inhabited

def Fault.message : Fault → Text
  | .notDecimal t => "invalid literal for int() with base 10: " ++ Text.quoted t
  | .tooManyDigits n =>
    "Exceeds the limit (" ++ Text.ofNat maxDigits ++ " digits) for integer string conversion: value has " ++
      Text.ofNat n ++ " digits; use sys.set_int_max_str_digits() to increase the limit"

/-- the ASCII capital of a letter; the dotless i and the long s have one too -/
def capital (c : Char) : Char := if c = 'ı' then 'I' else if c = 'ſ' then 'S' else c.toUpper

/-- the level that a setting names, if it names one -/
def read (setting : Text) : Except Fault (Option Level) :=
  let t := Text.trim setting
  if !t.isEmpty && t.all isDigitLike then
    let decimals := (t.takeWhile isDecimal).length
    if maxDigits < decimals then .error (.tooManyDigits decimals)
    else match readDecimal? 0 t with
      | some n => .ok (some n)
      | none => .error (.notDecimal t)
  else .ok (ofName? (t.map capital))

/-- the level that an optional setting names; an empty one counts as none -/
def ofSetting (setting : Option Text) : Except Fault (Option Level) :=
  match setting with
  | none => .ok none
  | some t => read t

/-- the level in force: the one given, or else the one set unless it is 0, or else the gravest -/
def inForce (given set : Option Level) : Level :=
  match given, set with
  | some l, _ => l
  | none, some l => if l = notSet then critical else l
  | none, none => critical

end Level

/-- one entry of the log -/
structure Record where
  level : Level
  message : Text
deriving DecidableEq, Repr, Inhabited

namespace Record

/-- the record as it is written -/
def render (r : Record) : Text := ['['] ++ r.level.name ++ "] " ++ r.message

/-- the record in the style of its level -/
def renderStyled (r : Record) : Text := r.level.style.wrapLines r.render

end Record

end Linewise
