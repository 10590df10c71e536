/-
How much a command says, and whether in colour.

The level of what is said rises with every `-v` and falls with `-q`; asking for both makes no sense. Colour is decided by
what the command line asks for, then by the environment, then by where the output goes.
-/
import Linewise.Log

namespace Linewise

/-! ### Verbosity -/

namespace Verbosity

/-- the levels for no `-v`, one, two, and three or more -/
def levels : List Level := [Level.warning, Level.info, Level.debug, Level.trace]

/-- why the counts make no sense together -/
def conflict : Text := "The '--verbose' and '--quiet' options are mutually exclusive."

/-- the level for the counts of `-v` and `-q`, none if both were given -/
def level? (verbose quiet : Nat) : Option Level :=
  if 0 < verbose && 0 < quiet then none
  else if 0 < quiet then some Level.error
  else some (levels.getD verbose Level.trace)

end Verbosity

/-! ### Colour -/

/-- what the command line asks for -/
inductive ColorMode where
  | auto
  | always
  | never
deriving DecidableEq, Repr, Inhabited

namespace ColorMode

def all : List ColorMode := [.auto, .always, .never]

def name : ColorMode → Text
  | .auto => "auto"
  | .always => "always"
  | .never => "never"

/-- the mode with a name, or what is wrong with the name -/
def read (t : Text) : Except Text ColorMode :=
  match all.find? (·.name = t) with
  | some m => .ok m
  | none => .error (Text.quoted t ++ " is not a valid ColorMode")

end ColorMode

/-- the settings that the environment makes -/
structure Environment where
  /-- asks for colour unless it is empty or zero -/
  forceColor : Option Text := none
  /-- refuses colour, whatever its value -/
  noColor : Option Text := none
  /-- the level of the log -/
  logLevel : Option Text := none
deriving DecidableEq, Repr, Inhabited

/-- the environment asks for colour -/
def Environment.forcesColor (e : Environment) : Bool :=
  match e.forceColor with
  | none => false
  | some t => !t.isEmpty && t != ['0']

/-- output is in colour -/
def ColorMode.isOn (mode : ColorMode) (e : Environment) (isTerminal : Bool) : Bool :=
  match mode with
  | .always => true
  | .never => false
  | .auto => e.forcesColor || (e.noColor.isNone && isTerminal)

end Linewise
