/-
What can be wrong with a settings document, and where.

Reading stops with a cause and the text that was still to be read; `Stop.locate` turns that into a line and a column of
the document. Two statements that clash within one table are a fault of their own: they have no one place.
-/
import Linewise.Text.Quoted

namespace Linewise.Toml

/-- two statements of a document that cannot both hold -/
inductive Clash where
  /-- the key has a value already -/
  | repeated (key : Text)
  /-- a header names a table that dotted keys have made -/
  | reopened
deriving DecidableEq, Repr, Inhabited

/-- the wording of a clash -/
def Clash.message : Clash → Text
  | .repeated key => "Key \"" ++ key ++ "\" already exists."
  | .reopened => "Redefinition of an existing table"

/-- what is wrong with a document -/
inductive Cause where
  | unexpected (c : Char)
  | unexpectedEnd
  | controlCharacter (c : Char)
  | emptyKey
  | blankInKey
  | tooManyParts
  | tooDeep
  | badEscape
  | tooManyQuotes
  | badNumber
  | badMoment
  | clash (c : Clash)
deriving DecidableEq, Repr, Inhabited

/-- the wording of a cause -/
def Cause.message : Cause → Text
  | .unexpected c => "Unexpected character: " ++ Text.quoted [c]
  | .unexpectedEnd => "Unexpected end of file"
  | .controlCharacter c => "Control characters (codes less than 0x1f and 0x7f) are not allowed: " ++ Text.quoted [c]
  | .emptyKey => "Empty key"
  | .blankInKey => "Invalid key"
  | .tooManyParts => "Too many parts in a dotted key"
  | .tooDeep => "Values are nested too deeply"
  | .badEscape => "Invalid escape in string"
  | .tooManyQuotes => "Too many quotes at the end of a string"
  | .badNumber => "Invalid number"
  | .badMoment => "Invalid date or time"
  | .clash c => c.message

/-- what is wrong, and what was still to be read -/
structure Stop where
  cause : Cause
  rest : Text
deriving DecidableEq, Repr, Inhabited

/-- stop here -/
def stop {α : Type} (cause : Cause) (rest : Text) : Except Stop α := .error ⟨cause, rest⟩

/-- stop at the next character, or at the end -/
def stopAt {α : Type} : Text → Except Stop α
  | [] => stop .unexpectedEnd []
  | c :: rest => stop (.unexpected c) (c :: rest)

/-- what is wrong with a document, and where: line and column count from 1 and 0 -/
structure Fault where
  cause : Cause
  line : Nat
  column : Nat
deriving DecidableEq, Repr, Inhabited

/-- the report -/
def Fault.message (f : Fault) : Text :=
  f.cause.message ++ " at line " ++ Text.ofNat f.line ++ " col " ++ Text.ofNat f.column

/-- the place where what follows is `rest` -/
def Stop.locate (s : Stop) (t : Text) : Fault :=
  let read := t.take (t.length - s.rest.length)
  ⟨s.cause, read.count '\n' + 1, (read.reverse.takeWhile (· != '\n')).length⟩

/-- why a document cannot be read -/
inductive ReadFault where
  /-- there is a place at which it goes wrong -/
  | malformed (fault : Fault)
  /-- two statements clash within one table -/
  | clashing (clash : Clash)
deriving DecidableEq, Repr, Inhabited

/-- the fault of a document that reading stops within -/
def Stop.fault (t : Text) (s : Stop) : ReadFault :=
  match s.cause with
  | .clash c => .clashing c
  | _ => .malformed (s.locate t)

/-- a clash met before `rest` stops reading -/
def refuse {α : Type} (rest : Text) (x : Except Clash α) : Except Stop α := x.mapError fun c => ⟨.clash c, rest⟩

end Linewise.Toml
