/-
Checked reading of single settings.

Each reader looks for one key and accepts one kind of value. A missing or absent value is no fault. A value of another
kind is dropped with exactly one remark, which names the place, the kind found and the value; lists and tables drop
single items in the same way and keep the rest. A remark becomes a warning; one that quotes a number that is too long
cannot be made.
-/
import Linewise.Toml.Value
import Linewise.Warning

namespace Linewise.Checked

/-- what is said about a part of a document that has no effect -/
inductive Remark where
  | wrongKind (expected place : Text) (v : Value)
  | strayItem (place : Text) (v : Value)
  | strayEntry (place : Text) (v : Value)
  | unknownKey (context key : Text)
deriving Repr, Inhabited

namespace Remark

def message : Remark → Text
  | .wrongKind expected place v =>
    "Expected " ++ expected ++ " in " ++ place ++ ", got " ++ v.typeName ++ ": " ++ v.shown
  | .strayItem place v => "Ignoring non-string entry in " ++ place ++ ": " ++ v.shown
  | .strayEntry place v => "Ignoring non-string value in " ++ place ++ ": " ++ v.shown
  | .unknownKey context key => "Unknown key in " ++ context ++ ": " ++ key

/-- the remark as a warning, which has no line -/
def warning (r : Remark) : Warning := ⟨r.message, none⟩

/-- the remark quotes nothing, or a value that can be quoted -/
def canBeMade : Remark → Bool
  | .wrongKind _ _ v => v.isShowable
  | .strayItem _ v => v.isShowable
  | .strayEntry _ v => v.isShowable
  | .unknownKey .. => true

/-- what the remark is about -/
def place : Remark → Text
  | .wrongKind _ place _ => place
  | .strayItem place _ => place
  | .strayEntry place _ => place
  | .unknownKey context _ => context

end Remark

/-- a value at this place cannot be quoted -/
structure Unshowable where
  place : Text
deriving DecidableEq, Repr, Inhabited

/-- the report -/
def Unshowable.message (_ : Unshowable) : Text :=
  "Exceeds the limit (" ++ Text.ofNat maxDigits ++
    " digits) for integer string conversion; use sys.set_int_max_str_digits() to increase the limit"

/-- the warnings that remarks become, if all of them can be made -/
def warnings : List Remark → Except Unshowable (List Warning)
  | [] => .ok []
  | r :: rest => if r.canBeMade then (warnings rest).map (r.warning :: ·) else .error ⟨r.place⟩

/-- what was read, with the remarks about what was dropped -/
abbrev Result (α : Type) := α × List Remark

/-- the place of a key -/
def place (context key : Text) : Text := context ++ ['.'] ++ key

/-- a sub-table, empty if it is missing or something else -/
def table (es : Entries) (key : Text) : Entries :=
  match es.get? key with
  | some (.table inner) => inner
  | _ => []

/-- a whole number; a truth value is not one -/
def int? (context key : Text) (es : Entries) : Result (Option Int) :=
  match es.get? key with
  | none => (none, [])
  | some (.int n) => (some n, [])
  | some v => (none, [.wrongKind "int" (place context key) v])

/-- a text -/
def text? (context key : Text) (es : Entries) : Result (Option Text) :=
  match es.get? key with
  | none => (none, [])
  | some (.text t) => (some t, [])
  | some v => (none, [.wrongKind "string" (place context key) v])

/-- the texts of a list, and a remark for every other item -/
def texts (location : Text) : List Value → Result (List Text)
  | [] => ([], [])
  | .text t :: rest => let (ts, rs) := texts location rest; (t :: ts, rs)
  | v :: rest => let (ts, rs) := texts location rest; (ts, .strayItem location v :: rs)

/-- a list of texts -/
def texts? (context key : Text) (es : Entries) : Result (Option (List Text)) :=
  match es.get? key with
  | none => (none, [])
  | some (.list items) => let (ts, rs) := texts (place context key) items; (some ts, rs)
  | some v => (none, [.wrongKind "list" (place context key) v])

/-- the entries of a table that are texts, and a remark for every other entry -/
def textEntries (location : Text) : Entries → Result (List (Text × Text))
  | [] => ([], [])
  | (k, .text t) :: rest => let (ts, rs) := textEntries location rest; ((k, t) :: ts, rs)
  | (k, v) :: rest => let (ts, rs) := textEntries location rest; (ts, .strayEntry (place location k) v :: rs)

/-- the name of a section, in brackets -/
def bracketed (key : Text) : Text := ['['] ++ key ++ [']']

/-- a section that maps texts to texts, in document order -/
def mapping (key : Text) (es : Entries) : Result (Table Text) :=
  match es.get? key with
  | none => ({}, [])
  | some (.table inner) => let (ts, rs) := textEntries (bracketed key) inner; (.ofList ts, rs)
  | some v => ({}, [.wrongKind "table" (bracketed key) v])

/-- one remark for every key that is not among the known ones -/
def unknownKeys (context : Text) (known : List Text) (es : Entries) : List Remark :=
  (es.filter fun e => !known.contains e.1).map fun e => .unknownKey context e.1

end Linewise.Checked
