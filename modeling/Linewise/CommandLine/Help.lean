/-
The pages of help.
-/
import Linewise.CommandLine.Command

namespace Linewise.Help

/-- the name of the program -/
def program : Text := "py2rb"

/-- one line about each of several things -/
def listing (title : Text) (rows : List (Text × Text)) : Text :=
  let width := (rows.map fun r => r.1.length).foldl max 0
  let row (r : Text × Text) : Text := Text.spaces 2 ++ r.1 ++ Text.spaces (width + 2 - r.1.length) ++ r.2 ++ ['\n']
  title ++ [':', '\n'] ++ rows.flatMap row

/-- the row about help -/
def helpRow : Text × Text := ("-h, --help", "Show this message and exit.")

/-- the rows about the settings -/
def settingsRows : List (Text × Text) :=
  [("--no-config", "Ignore py2rb.toml and pyproject.toml in the working directory."),
    ("--config FILE", "Additional config file(s) to load and merge."),
    ("--indent-width INTEGER RANGE", "Indentation unit of the input (overrides [layout].indent_width).  [x>=1]")]

/-- the line about a command in the page of the program -/
def summary : CommandName → Text
  | .convert => "Translate Python source into approximate Ruby source (reads STDIN by default)."
  | .dumpConfig => "Dump the effective Py2Rb configuration (layout and substitution tables) as TOML."
  | .version => "Show the current version of Py2Rb."

/-- the arguments and options of a command -/
def usage : CommandName → Text
  | .convert => "[OPTIONS] [PATHS]..."
  | _ => "[OPTIONS]"

/-- the row about the output -/
def outputRow : Text × Text := ("-o, --output FILE", "Write the translation to FILE instead of STDOUT.")

/-- the rows about the options of a command -/
def rows : CommandName → List (Text × Text)
  | .convert => outputRow :: settingsRows ++ [helpRow]
  | .dumpConfig => settingsRows ++ [helpRow]
  | .version => [("--format [text|json]", "Output format (text, json)."), helpRow]

/-- the page of a command -/
def command (c : CommandName) : Text :=
  "Usage: " ++ program ++ [' '] ++ c.name ++ [' '] ++ usage c ++ "\n\n  " ++ summary c ++ "\n\n" ++
    listing "Options" (rows c)

/-- the page of the program -/
def group : Text :=
  "Usage: " ++ program ++ " [OPTIONS] COMMAND [ARGS]...\n\n  Py2Rb: best-effort Python to Ruby source translator.\n\n" ++
    listing "Options"
      [("-q, --quiet", "Only report errors."),
        ("-v, --verbose", "Increase verbosity. Specify up to three times for more detail."),
        ("--no-color", "Disable color output (equivalent to --color=never)."),
        ("--color [auto|always|never]", "Color output: auto (default), always, or never."), helpRow] ++
    ['\n'] ++ listing "Commands" (CommandName.all.map fun c => (c.name, summary c))

end Linewise.Help
