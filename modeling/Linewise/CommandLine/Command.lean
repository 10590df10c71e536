/-
The commands and their options.

Reading is in two parts: `GroupRequest.read` takes the options before the name of a command, `Command.read` those after
it. Asking for help wins over everything that can be read but makes no sense.
-/
import Linewise.CommandLine.Appearance
import Linewise.CommandLine.Arguments
import Linewise.Config.Sources
import Linewise.Number.Integer

namespace Linewise

/-- what was asked for: a page of help, or the thing itself -/
inductive Asked (α : Type) where
  | help
  | request (a : α)
deriving DecidableEq, Repr, Inhabited

/-- one value among those that an option takes -/
def choose (option : Text) (choices : List Text) (value : Text) : Except Misuse Text :=
  if choices.contains value then .ok value
  else .error (.invalidValue option
    (Text.quoted value ++ " is not one of " ++ Text.join ", " (choices.map Text.quoted) ++ "."))

/-! ### Options before the command -/

inductive GroupKey where
  | verbose
  | quiet
  | color
  | noColor
  | help
deriving DecidableEq, Repr, Inhabited

/-- the options before the name of a command -/
def groupSwitches : List (Switch GroupKey) :=
  [⟨.verbose, some 'v', "verbose", false⟩, ⟨.quiet, some 'q', "quiet", false⟩, ⟨.color, none, "color", true⟩,
    ⟨.noColor, none, "no-color", false⟩, ⟨.help, some 'h', "help", false⟩]

/-- the options before the command, and the command with its arguments -/
structure GroupRequest where
  verbose : Nat
  quiet : Nat
  color : ColorMode
  command : Option (Text × List Text)
deriving DecidableEq, Repr, Inhabited

/-- the colour mode among the options; refusing colour wins -/
def GroupRequest.colorMode (g : Given GroupKey) : Except Misuse ColorMode :=
  match g.last? .color with
  | none => .ok (if g.has .noColor then .never else .auto)
  | some t =>
    match choose "--color" (ColorMode.all.map ColorMode.name) t with
    | .error m => .error m
    | .ok name => .ok (if g.has .noColor then .never else (ColorMode.all.find? (·.name = name)).getD .auto)

/-- the arguments of the program -/
def GroupRequest.read (arguments : List Text) : Except Misuse (Asked GroupRequest) :=
  match readArguments groupSwitches false none arguments with
  | .error m => .error m
  | .ok g =>
    if g.has .help then .ok .help
    else (colorMode g).map fun color =>
      .request
        { verbose := g.count .verbose
          quiet := g.count .quiet
          color
          command := g.rest.head?.map fun name => (name, g.rest.tail) }

/-! ### Commands -/

inductive CommandName where
  | convert
  | dumpConfig
  | version
deriving DecidableEq, Repr, Inhabited

namespace CommandName

def all : List CommandName := [.convert, .dumpConfig, .version]

def name : CommandName → Text
  | .convert => "convert"
  | .dumpConfig => "dump-config"
  | .version => "version"

/-- the command with a name -/
def ofName? (t : Text) : Option CommandName := all.find? (·.name = t)

end CommandName

/-- the options that make the settings -/
structure SettingsOptions where
  /-- the files in the working directory are not looked for -/
  noConfig : Bool := false
  /-- more files to merge -/
  files : List Text := []
  indentWidth : Option Int := none
deriving DecidableEq, Repr, Inhabited

/-- a command with what it needs -/
inductive Command where
  | convert (inputs : List Text) (output : Option Text) (settings : SettingsOptions)
  | dumpConfig (settings : SettingsOptions)
  | version (asJson : Bool)
deriving DecidableEq, Repr, Inhabited

/-- the name of the standard input among the inputs, and of the standard output -/
def dash : Text := "-"

inductive CommandKey where
  | output
  | noConfig
  | config
  | indentWidth
  | format
  | help
deriving DecidableEq, Repr, Inhabited

namespace Command

def helpSwitch : Switch CommandKey := ⟨.help, some 'h', "help", false⟩

def settingsSwitches : List (Switch CommandKey) :=
  [⟨.noConfig, none, "no-config", false⟩, ⟨.config, none, "config", true⟩,
    ⟨.indentWidth, none, "indent-width", true⟩]

/-- the options of a command -/
def switches : CommandName → List (Switch CommandKey)
  | .convert => ⟨.output, some 'o', "output", true⟩ :: settingsSwitches ++ [helpSwitch]
  | .dumpConfig => settingsSwitches ++ [helpSwitch]
  | .version => [⟨.format, none, "format", true⟩, helpSwitch]

/-- an indentation unit, a whole number of at least one -/
def readIndent (value : Text) : Except Misuse Int :=
  match Integer.read? value with
  | none => .error (.invalidValue "--indent-width" (Text.quoted value ++ " is not a valid integer range."))
  | some n =>
    if n < 1 then .error (.invalidValue "--indent-width" (Text.ofInt n ++ " is not in the range x>=1."))
    else .ok n

/-- the settings among the options -/
def readSettings (g : Given CommandKey) : Except Misuse SettingsOptions :=
  let settings (indentWidth : Option Int) : SettingsOptions :=
    { noConfig := g.has .noConfig, files := g.values .config, indentWidth }
  match g.last? .indentWidth with
  | none => .ok (settings none)
  | some value => (readIndent value).map fun n => settings (some n)

/-- the formats of the version -/
def formats : List Text := ["text", "json"]

/-- a command that takes no arguments -/
def withoutArguments (g : Given CommandKey) (c : Command) : Except Misuse Command :=
  if g.rest.isEmpty then .ok c else .error (.unexpectedArguments g.rest)

/-- the command that options and arguments make -/
def ofGiven (name : CommandName) (g : Given CommandKey) : Except Misuse Command := do
  match name with
  | .convert =>
    let settings ← readSettings g
    .ok (.convert (if g.rest.isEmpty then [dash] else g.rest) (g.last? .output) settings)
  | .dumpConfig =>
    let settings ← readSettings g
    withoutArguments g (.dumpConfig settings)
  | .version =>
    let format ← choose "--format" formats ((g.last? .format).getD "text")
    withoutArguments g (.version (format = "json".toList))

/-- the arguments of a command -/
def read (name : CommandName) (arguments : List Text) : Except Misuse (Asked Command) :=
  match readArguments (switches name) true none arguments with
  | .error m => .error m
  | .ok g => if g.has .help then .ok .help else (ofGiven name g).map .request

/-! ### What a command looks at -/

/-- the settings files that a command may look at -/
def settingsPaths (o : SettingsOptions) : List Text := (if o.noConfig then [] else settingsNames) ++ o.files

/-- the paths that a command may look at -/
def paths : Command → List Text
  | .convert inputs output o => inputs.filter (· != dash) ++ output.toList ++ settingsPaths o
  | .dumpConfig o => settingsPaths o
  | .version _ => []

/-- the command reads the standard input -/
def readsInput : Command → Bool
  | .convert inputs _ _ => inputs.contains dash
  | _ => false

end Command

/-- the command that the arguments of the program ask for, if they can be read -/
def Command.ofArguments? (arguments : List Text) : Option Command :=
  match GroupRequest.read arguments with
  | .ok (.request g) => do
    let (name, rest) ← g.command
    let command ← CommandName.ofName? name
    match Command.read command rest with
    | .ok (.request c) => some c
    | _ => none
  | _ => none

end Linewise
