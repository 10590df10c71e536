/-
The whole program: from the arguments to what is written and how it ends.

Options before the name of a command decide how much is said and in which colours, and are acted on before the arguments
of the command are read; an unknown command is refused before either.
-/
import Linewise.CommandLine.Conversions
import Linewise.CommandLine.Help

namespace Linewise

/-- the version of the program -/
def programVersion : Text := "0.1.0"

/-- run `dump-config` -/
def World.dumpConfig (w : World) (o : SettingsOptions) : Ending :=
  match w.settings o with
  | .error ending => ending
  | .ok config =>
    let sources : Text := if config.sources.isEmpty then "defaults only" else Text.join ", " config.sources
    { events := config.events ++
        [.printed none ("# Effective Py2Rb config (" ++ sources ++ ")"), .printed none "# === BEGIN ===",
          .printed none (Text.dropEndWhile (· == '\n') config.render), .printed none "# === END ==="] }

/-- run `version` -/
def showVersion (asJson : Bool) : Ending :=
  { events :=
      [if asJson then .printed none ("\x7b\"version\": \"" ++ programVersion ++ "\"\x7d")
       else .printed (some Event.bold) programVersion] }

/-- a page of help -/
def showHelp (page : Text) : Ending := { events := [.converted page] }

/-- what is said when there is no command -/
def showHint : Ending :=
  { events :=
      [.printed none "Hint: use 'py2rb convert [PATHS...]' to translate Python files.", .printed none [],
        .converted Help.group] }

/-- run a command -/
def World.runCommand (w : World) (verbosity : Level) : Command → Ending
  | .convert inputs output o => w.convert verbosity inputs output o
  | .dumpConfig o => w.dumpConfig o
  | .version asJson => showVersion asJson

/-- run a command that is still to be read -/
def World.runNamed (w : World) (verbosity : Level) (name : CommandName) (arguments : List Text) : Ending :=
  match Command.read name arguments with
  | .error m => (Halt.misuse m).ending []
  | .ok .help => showHelp (Help.command name)
  | .ok (.request c) =>
    match c.check w.tree with
    | .error halt => halt.ending []
    | .ok () => w.runCommand verbosity c

/-! ### The whole program -/

/-- what the options before the command decide -/
structure Setup where
  /-- how much is said -/
  verbosity : Level
  /-- the level of the log in force -/
  level : Level
  color : Bool
deriving DecidableEq, Repr, Inhabited

/-- an ending, and the setup if the program got that far -/
structure Session where
  setup : Option Setup := none
  ending : Ending
deriving DecidableEq, Repr, Inhabited

/-- what the options before the command decide; the environment decides on the log before them -/
def World.setUp (w : World) (g : GroupRequest) : Except Halt Setup :=
  match Verbosity.level? g.verbose g.quiet with
  | none => .error (.refused .usageError Verbosity.conflict)
  | some verbosity =>
    match Level.ofSetting w.environment.logLevel with
    | .error fault => .error (.crashed (.level fault))
    | .ok level => .ok ⟨verbosity, level.getD verbosity, g.color.isOn w.environment w.isTerminal⟩

/-- the command of a name. What stands there instead of a name may be options after two dashes, and ask for help -/
def findCommand (name : Text) (arguments : List Text) : Except Ending CommandName :=
  match CommandName.ofName? name with
  | some c => .ok c
  | none =>
    match isOption name, GroupRequest.read (name :: arguments) with
    | true, .ok .help => .error (showHelp Help.group)
    | true, .error m => .error ((Halt.misuse m).ending [])
    | _, _ => .error ((Halt.misuse (.unknownCommand name)).ending [])

/-- run what the options before the command leave -/
def World.runRequest (w : World) (g : GroupRequest) (run : Setup → Ending) : Session :=
  match w.setUp g with
  | .error halt => { ending := halt.ending [] }
  | .ok setup => { setup := some setup, ending := run setup }

/-- run the program -/
def World.run (w : World) (arguments : List Text) : Session :=
  match GroupRequest.read arguments with
  | .error m => { ending := (Halt.misuse m).ending [] }
  | .ok .help => { ending := showHelp Help.group }
  | .ok (.request g) =>
    match g.command with
    | none => w.runRequest g fun _ => showHint
    | some (name, rest) =>
      match findCommand name rest with
      | .error ending => { ending }
      | .ok c => w.runRequest g fun setup => w.runNamed setup.verbosity c rest

namespace Session

/-- colour is on -/
def color (s : Session) : Bool := (s.setup.map Setup.color).getD false

/-- the level of the log in force, the usual one before anything decides on it -/
def level (s : Session) : Level := (s.setup.map Setup.level).getD Level.warning

/-- what was written to the standard output -/
def output (s : Session) : Text := s.ending.events.flatMap (Event.output s.color)

/-- what was written to the error output -/
def errors (s : Session) : Text := s.ending.events.flatMap (Event.errors s.color s.level)

end Session

end Linewise
