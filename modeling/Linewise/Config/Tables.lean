/-
The four substitution tables that the edits and the statement shapes consult.

No name of either language is built into the edits: they only ask these tables. The keys of `reservedWords` are
patterns, applied in the order of the table; the other keys are names.
-/
import Linewise.Table
import Linewise.Pattern.Reader

namespace Linewise

/-- which table is meant -/
inductive TableKind where
  | reservedWords
  | functionsToMethods
  | functionsToFunctions
  | specialMethods
deriving DecidableEq, Repr, Inhabited

namespace TableKind

def all : List TableKind := [.reservedWords, .functionsToMethods, .functionsToFunctions, .specialMethods]

/-- the name of the table's section in a settings document -/
def name : TableKind → Text
  | .reservedWords => "reserved_words"
  | .functionsToMethods => "functions_to_methods"
  | .functionsToFunctions => "functions_to_functions"
  | .specialMethods => "special_methods"

end TableKind

/-- the four tables -/
structure Tables where
  reservedWords : Table Text := {}
  functionsToMethods : Table Text := {}
  functionsToFunctions : Table Text := {}
  specialMethods : Table Text := {}
deriving DecidableEq, Inhabited

namespace Tables

def table (t : Tables) : TableKind → Table Text
  | .reservedWords => t.reservedWords
  | .functionsToMethods => t.functionsToMethods
  | .functionsToFunctions => t.functionsToFunctions
  | .specialMethods => t.specialMethods

/-- the value of a key in one of the tables -/
def lookup (t : Tables) (kind : TableKind) (key : Text) : Option Text := (t.table kind).get? key

/-- put the tables `higher` over the tables `lower`, key by key -/
def merge (lower higher : Tables) : Tables where
  reservedWords := lower.reservedWords.merge higher.reservedWords
  functionsToMethods := lower.functionsToMethods.merge higher.functionsToMethods
  functionsToFunctions := lower.functionsToFunctions.merge higher.functionsToFunctions
  specialMethods := lower.specialMethods.merge higher.specialMethods

end Tables

/-- the key of a reserved word, between two word boundaries -/
def wrappedKey (key : Text) : Text := "\\b" ++ key ++ "\\b"

/-- the patterns and replacements of reserved words, in order; the first key that does not read as a pattern between
word boundaries is reported -/
def reservedPatterns : List (Text × Text) → Except Pattern.Fault (List (Pattern × Text))
  | [] => .ok []
  | (key, value) :: rest =>
    match Pattern.read (wrappedKey key) with
    | .error fault => .error fault
    | .ok p =>
      match reservedPatterns rest with
      | .error fault => .error fault
      | .ok ps => .ok ((p, value) :: ps)

end Linewise
