/-
Renaming of calls found in the call tables.

Only a call whose arguments hold no parenthesis is an occurrence, so of nested calls the innermost is renamed; a call
after a dot is a method call already and is left alone. Replacements are not looked at again.
-/
import Linewise.Config.Tables
import Linewise.Pattern.Pieces

namespace Linewise.Edit

open Pattern

/-- a name not after a dot (group 1), and arguments without parentheses between parentheses (group 2) -/
def innerCall : Pattern :=
  .ofList [.behind 1 true (char '.'), wordBoundary, .group 1 (plus wordChar), star blank, char '(',
    .group 2 (plus (noneOf ['(', ')'])), char ')']

/-- an argument that needs no parentheses when a method is called on it -/
def isSimpleReceiver (arguments : Text) : Bool :=
  !arguments.isEmpty && arguments.all fun c => isWordChar c || c == '.'

/-- the argument as the receiver of a method -/
def receiver (arguments : Text) : Text :=
  if isSimpleReceiver arguments then arguments else ['('] ++ arguments ++ [')']

/-- the call of a mapped name with these arguments, nothing for other names -/
def renamedCall? (tables : Tables) (name arguments : Text) : Option Text :=
  match tables.lookup .functionsToMethods name with
  | some method => some (receiver arguments ++ ['.'] ++ method)
  | none => (tables.lookup .functionsToFunctions name).map fun f => f ++ ['('] ++ arguments ++ [')']

/-- `len(x)` becomes `x.length`, `open(f)` becomes `File.open(f)`, as the tables say -/
def replaceCalls (tables : Tables) (t : Text) : Text :=
  innerCall.replace (fun h => (renamedCall? tables (h.group 1) (h.group 2)).getD h.text) t

end Linewise.Edit
