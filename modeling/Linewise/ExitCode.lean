/-
How a command ends: the codes it can report to its caller.
-/
import Linewise.Text.Basic

namespace Linewise

/-- how a command ended -/
inductive ExitCode where
  | success
  /-- an unforeseen failure -/
  | failure
  /-- the command line cannot be read -/
  | badCommandLine
  /-- the command line can be read but makes no sense -/
  | usageError
  /-- an input is no text -/
  | encodingError
  /-- an input does not exist -/
  | fileNotFound
  /-- the conversion itself failed -/
  | pipelineError
  /-- the output cannot be written -/
  | ioError
  /-- an input may not be read -/
  | permissionDenied
  /-- the settings cannot be loaded -/
  | configError
deriving DecidableEq, Repr, Inhabited

namespace ExitCode

def number : ExitCode → Nat
  | .success => 0
  | .failure => 1
  | .badCommandLine => 2
  | .usageError => 64
  | .encodingError => 65
  | .fileNotFound => 66
  | .pipelineError => 70
  | .ioError => 74
  | .permissionDenied => 77
  | .configError => 78

def name : ExitCode → Text
  | .success => "success"
  | .failure => "failure"
  | .badCommandLine => "bad_command_line"
  | .usageError => "usage_error"
  | .encodingError => "encoding_error"
  | .fileNotFound => "file_not_found"
  | .pipelineError => "pipeline_error"
  | .ioError => "io_error"
  | .permissionDenied => "permission_denied"
  | .configError => "config_error"

end ExitCode

end Linewise
