/-
Warnings: what went wrong without stopping the work.

Conversion and the reading of settings are best-effort, so every problem they record is a warning, with the line it
refers to if there is one.
-/
import Linewise.Text.Basic

namespace Linewise

/-- a recorded problem -/
structure Warning where
  message : Text
  line : Option Nat := none
deriving DecidableEq, Repr, Inhabited

namespace Warning

/-- the name of the level, the same for all -/
def level : Text := "warning"

/-- the warning in one line -/
def render (w : Warning) : Text :=
  match w.line with
  | none => "[warning] " ++ w.message
  | some n => "[warning] line " ++ Text.ofNat n ++ ": " ++ w.message

end Warning

end Linewise
