/-
Editing one statement: six steps, each on the result of the one before.

Calls are renamed before capitalized names become constructors, and reserved words are replaced before references to the
receiver. Only the reserved words can fail: when the text of one of them does not read as a pattern between word
boundaries.
-/
import Linewise.Edit.Calls
import Linewise.Edit.Words

namespace Linewise.Edit

/-- one step of the edit -/
inductive Step where
  | rawString
  | format
  | call
  | constructor
  | reservedWords
  | selfReference
deriving DecidableEq, Repr, Inhabited

namespace Step

/-- the steps in their order -/
def all : List Step := [.rawString, .format, .call, .constructor, .reservedWords, .selfReference]

def name : Step → Text
  | .rawString => "raw_string"
  | .format => "format"
  | .call => "call"
  | .constructor => "constructor"
  | .reservedWords => "reserved_words"
  | .selfReference => "self"

/-- the step of a name -/
def ofName? (name : Text) : Option Step := all.find? (·.name = name)

/-- the step on one statement -/
def apply (tables : Tables) : Step → Text → Except Pattern.Fault Text
  | .rawString, t => .ok (replaceRawStrings t)
  | .format, t => .ok (replaceFormats t)
  | .call, t => .ok (replaceCalls tables t)
  | .constructor, t => .ok (replaceConstructors t)
  | .reservedWords, t => (reservedPatterns tables.reservedWords.entries).map (replaceReserved · t)
  | .selfReference, t => .ok (replaceSelf t)

end Step

/-- the text after each of the steps, with the step -/
def trace (tables : Tables) : List Step → Text → Except Pattern.Fault (List (Step × Text))
  | [], _ => .ok []
  | step :: rest, t =>
    match step.apply tables t with
    | .error fault => .error fault
    | .ok u => (trace tables rest u).map ((step, u) :: ·)

/-- the steps of a trace that changed the text they were given -/
def changing : Text → List (Step × Text) → List Step
  | _, [] => []
  | t, (step, u) :: rest => if u = t then changing u rest else step :: changing u rest

/-- the text after the steps -/
def run (tables : Tables) : List Step → Text → Except Pattern.Fault Text
  | [], t => .ok t
  | step :: rest, t =>
    match step.apply tables t with
    | .error fault => .error fault
    | .ok u => run tables rest u

/-- the edit of one statement: all steps in order -/
def statement (tables : Tables) (t : Text) : Except Pattern.Fault Text := run tables Step.all t

end Linewise.Edit
