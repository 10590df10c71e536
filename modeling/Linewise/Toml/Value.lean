/-
The values of settings documents.

A value is a truth value, a number, a text, a date or time, a list or a table; tables keep the order of their keys. Data
that does not come from a document may also hold `absent` values, which count as if they were not there. `shown` is how
messages quote a value; a whole number of more than `maxDigits` digits cannot be quoted.
-/
import Linewise.Number.Shortest
import Linewise.Table
import Linewise.Toml.Moment

namespace Linewise

/-- a value of a settings document -/
inductive Value where
  | absent
  | bool (b : Bool)
  | int (n : Int)
  | float (x : Binary64)
  | text (t : Text)
  | moment (m : Moment)
  | list (items : List Value)
  | table (entries : List (Text × Value))
deriving Repr, Inhabited, BEq

/-- a table of values, in order -/
abbrev Entries := List (Text × Value)

namespace Value

/-- the name of the kind of value -/
def typeName : Value → Text
  | .absent => "NoneType"
  | .bool _ => "bool"
  | .int _ => "int"
  | .float _ => "float"
  | .text _ => "str"
  | .moment m => m.typeName
  | .list _ => "list"
  | .table _ => "dict"

mutual

/-- the value as messages show it -/
def shown : Value → Text
  | .absent => "None"
  | .bool b => if b then "True" else "False"
  | .int n => Text.ofInt n
  | .float x => x.render
  | .text t => t.quoted
  | .moment m => m.shown
  | .list items => ['['] ++ Text.join ", " (shownItems items) ++ [']']
  | .table entries => ['\x7b'] ++ Text.join ", " (shownEntries entries) ++ ['\x7d']

def shownItems : List Value → List Text
  | [] => []
  | v :: rest => v.shown :: shownItems rest

def shownEntries : List (Text × Value) → List Text
  | [] => []
  | (k, v) :: rest => (Text.quoted k ++ ": " ++ v.shown) :: shownEntries rest

end

mutual

/-- messages can quote the value -/
def isShowable : Value → Bool
  | .int n => decide (n.natAbs < 10 ^ maxDigits)
  | .list items => areShowable items
  | .table entries => entriesShowable entries
  | _ => true

def areShowable : List Value → Bool
  | [] => true
  | v :: rest => v.isShowable && areShowable rest

def entriesShowable : List (Text × Value) → Bool
  | [] => true
  | (_, v) :: rest => v.isShowable && entriesShowable rest

end

/-- the entries of a table, none for any other value -/
def entries : Value → Entries
  | .table es => es
  | _ => []

end Value

/-- the value under a key, nothing if it is missing or absent -/
def Entries.get? (es : Entries) (key : Text) : Option Value :=
  match List.lookup key es with
  | none => none
  | some .absent => none
  | some v => some v

end Linewise
