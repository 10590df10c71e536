/-
What a command writes: a list of events, and what they come to on the two output streams.

Converted text goes out as it is. Everything said about it is a line, which has its style when colour is on and loses
its escape sequences when it is off. Log records are never coloured, and those below the level in force are left out.
-/
import Linewise.Log

namespace Linewise

/-- one thing that is written -/
inductive Event where
  /-- a piece of converted text -/
  | converted (text : Text)
  /-- a line on the standard output -/
  | printed (style : Option Style) (line : Text)
  /-- a line on the error output -/
  | noted (style : Option Style) (line : Text)
  /-- a record of the log -/
  | logged (record : Record)
deriving DecidableEq, Repr, Inhabited

namespace Event

/-- the style of the version -/
def bold : Style := ⟨[1], [0]⟩

/-- the style of a warning -/
def yellow : Style := ⟨[33], [0]⟩

/-- the style of a summary -/
def blue : Style := ⟨[34], [0]⟩

/-- the style of an error -/
def brightRed : Style := ⟨[91], [0]⟩

def warned (line : Text) : Event := .noted (some yellow) line

def failed (line : Text) : Event := .noted (some brightRed) line

/-- the reason why the command gives up; it has no style of its own -/
def refused (reason : Text) : Event := .noted none ("Error: " ++ reason)

/-- a line as it is written -/
def echo (color : Bool) (style : Option Style) (line : Text) : Text :=
  (if color then (style.map (·.wrap line)).getD line else Style.strip line) ++ ['\n']

/-- what an event adds to the standard output -/
def output (color : Bool) : Event → Text
  | .converted text => text
  | .printed style line => echo color style line
  | .noted _ _ => []
  | .logged _ => []

/-- what an event adds to the error output -/
def errors (color : Bool) (level : Level) : Event → Text
  | .converted _ => []
  | .printed _ _ => []
  | .noted style line => echo color style line
  | .logged r => if level ≤ r.level then r.render ++ ['\n'] else []

/-- what an event adds to the converted text -/
def convertedText : Event → Text
  | .converted text => text
  | _ => []

/-- the event is not a piece of converted text -/
def isSaid : Event → Bool
  | .converted _ => false
  | _ => true

end Event

end Linewise
