/-
What a command may look at, and how it ends.

A `World` holds everything that a command may look at, an `Ending` everything that it did. A command gives up for one of
three reasons: its command line cannot be read, something foreseen went wrong, or something unforeseen did.
-/
import Linewise.Batch
import Linewise.CommandLine.Command
import Linewise.CommandLine.Console

namespace Linewise

/-- what a command may look at -/
structure World where
  /-- the standard input -/
  input : Bytes := []
  tree : FileTree := {}
  /-- how the working directory is named -/
  directory : Text := Path.here
  environment : Environment := {}
  /-- the standard output is a terminal -/
  isTerminal : Bool := false
deriving DecidableEq, Repr, Inhabited

/-- a failure that no command foresees -/
inductive Crash where
  | level (fault : Level.Fault)
  | undecodable (fault : Utf8.Fault)
  | pattern (fault : Pattern.Fault)
  | path (fault : FileFault)
  | clash (clash : Toml.Clash)
  | unshowable (fault : Checked.Unshowable)
deriving DecidableEq, Repr, Inhabited

def Crash.message : Crash → Text
  | .level fault => fault.message
  | .undecodable fault => fault.message
  | .pattern fault => fault.message
  | .path fault => fault.message
  | .clash c => c.message
  | .unshowable fault => fault.message

/-- why a command gives up -/
inductive Halt where
  /-- the command line cannot be read -/
  | misuse (m : Misuse)
  /-- a foreseen failure, with its reason -/
  | refused (code : ExitCode) (reason : Text)
  | crashed (c : Crash)
deriving DecidableEq, Repr, Inhabited

/-- the code of a command that gives up -/
def Halt.code : Halt → ExitCode
  | .misuse _ => .badCommandLine
  | .refused code _ => code
  | .crashed _ => .failure

/-- what is said when a command gives up -/
def Halt.events : Halt → List Event
  | .misuse m => [.refused m.message]
  | .refused _ reason => [.refused reason]
  | .crashed _ => []

/-- what a command did -/
structure Ending where
  code : ExitCode := .success
  events : List Event := []
  /-- the file that was written, and its text -/
  written : Option (Place × Text) := none
  crash : Option Crash := none
deriving DecidableEq, Repr, Inhabited

/-- the ending of giving up after some events -/
def Halt.ending (h : Halt) (before : List Event) : Ending where
  code := h.code
  events := before ++ h.events
  crash := match h with
    | .crashed c => some c
    | _ => none

end Linewise
