/-
Reading the arguments of a command: options, their values, and what is left.

An option has a long name after two dashes and may have a letter after one; letters can be written together. A value is
attached with `=` to a long name or without anything to a letter, or it is the next argument. Two dashes alone end the
options; a single dash is no option.
-/
import Linewise.Text.Quoted

namespace Linewise

/-- an option that a command knows -/
structure Switch (κ : Type) where
  key : κ
  short : Option Char
  long : Text
  takesValue : Bool
deriving Repr, Inhabited

/-- why a command line cannot be read -/
inductive Misuse where
  | unknownOption (option : Text)
  | missingValue (option : Text)
  | unexpectedValue (option : Text)
  | invalidValue (option reason : Text)
  | unknownCommand (name : Text)
  | unexpectedArguments (arguments : List Text)
deriving DecidableEq, Repr, Inhabited

def Misuse.message : Misuse → Text
  | .unknownOption o => "No such option: " ++ o
  | .missingValue o => "Option " ++ Text.quoted o ++ " requires an argument."
  | .unexpectedValue o => "Option " ++ Text.quoted o ++ " does not take a value."
  | .invalidValue o reason => "Invalid value for " ++ Text.quoted o ++ ": " ++ reason
  | .unknownCommand n => "No such command " ++ Text.quoted n ++ "."
  | .unexpectedArguments [a] => "Got unexpected extra argument (" ++ a ++ ")"
  | .unexpectedArguments as => "Got unexpected extra arguments (" ++ Text.join [' '] as ++ ")"

/-- the options that were given, in order, each with its value (empty if it takes none), and the other arguments -/
structure Given (κ : Type) where
  options : List (κ × Text) := []
  rest : List Text := []
deriving Repr, Inhabited

namespace Given

variable {κ : Type}

def addOptions (g : Given κ) (os : List (κ × Text)) : Given κ := { g with options := os ++ g.options }

def addArgument (g : Given κ) (a : Text) : Given κ := { g with rest := a :: g.rest }

variable [DecidableEq κ]

/-- how often an option was given -/
def count (g : Given κ) (k : κ) : Nat := g.options.countP (·.1 = k)

/-- the option was given -/
def has (g : Given κ) (k : κ) : Bool := g.options.any (·.1 = k)

/-- every value of an option -/
def values (g : Given κ) (k : κ) : List Text := (g.options.filter (·.1 = k)).map Prod.snd

/-- the last value of an option -/
def last? (g : Given κ) (k : κ) : Option Text := (g.values k).getLast?

end Given

/-- the options in one argument, and the option that waits for its value in the next one -/
abbrev Opened (κ : Type) := List (κ × Text) × Option (κ × Text)

variable {κ : Type}

/-- the option with a letter -/
def Switch.ofLetter? (switches : List (Switch κ)) (c : Char) : Option (Switch κ) :=
  switches.find? (·.short = some c)

/-- the option with a long name -/
def Switch.ofName? (switches : List (Switch κ)) (name : Text) : Option (Switch κ) :=
  switches.find? (·.long = name)

/-- an argument that starts with two dashes, without them -/
def readLong (switches : List (Switch κ)) (argument : Text) : Except Misuse (Opened κ) :=
  let name := argument.takeWhile (· != '=')
  let shown : Text := "--" ++ name
  match Switch.ofName? switches name, argument.dropWhile (· != '=') with
  | none, _ => .error (.unknownOption shown)
  | some s, [] => .ok (if s.takesValue then ([], some (s.key, shown)) else ([(s.key, [])], none))
  | some s, _ :: value => if s.takesValue then .ok ([(s.key, value)], none) else .error (.unexpectedValue shown)

/-- the letters of an argument that starts with one dash -/
def readLetters (switches : List (Switch κ)) : Text → Except Misuse (Opened κ)
  | [] => .ok ([], none)
  | c :: rest =>
    match Switch.ofLetter? switches c with
    | none => .error (.unknownOption ['-', c])
    | some s =>
      if s.takesValue then
        .ok (if rest.isEmpty then ([], some (s.key, ['-', c])) else ([(s.key, rest)], none))
      else (readLetters switches rest).map fun o => ((s.key, []) :: o.1, o.2)

/-- an argument that starts with a dash and has more than that -/
def readOptions (switches : List (Switch κ)) : Text → Except Misuse (Opened κ)
  | '-' :: '-' :: name => readLong switches name
  | argument => readLetters switches argument.tail

/-- an argument that is an option or several letters -/
def isOption (argument : Text) : Bool :=
  match argument with
  | '-' :: _ :: _ => true
  | _ => false

/-- the arguments, where an option may wait for its value; if arguments and options may not be mixed, the first argument
ends the options -/
def readArguments (switches : List (Switch κ)) (mixed : Bool) :
    Option (κ × Text) → List Text → Except Misuse (Given κ)
  | some (_, shown), [] => .error (.missingValue shown)
  | some (k, _), value :: rest => (readArguments switches mixed none rest).map (·.addOptions [(k, value)])
  | none, [] => .ok {}
  | none, argument :: rest =>
    if argument = ['-', '-'] then .ok { rest }
    else if isOption argument then
      match readOptions switches argument with
      | .error m => .error m
      | .ok (os, waiting) => (readArguments switches mixed waiting rest).map (·.addOptions os)
    else if mixed then (readArguments switches mixed none rest).map (·.addArgument argument)
    else .ok { rest := argument :: rest }

end Linewise
