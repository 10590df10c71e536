/-
Converting several files into one output.

Each file is read as a whole before anything of it is written, so a file that cannot be read leaves no trace in the
output. A failure ends its own file only: the others are still converted, and the code of a batch is that of its first
failure. `run_append`: a batch of two lists is the one followed by the other.
-/
import Linewise.Config.Sources
import Linewise.ExitCode
import Linewise.Conversion

namespace Linewise

/-- the state at the end of a conversion, with the name of its input -/
structure Report where
  source : Text
  context : Context
deriving DecidableEq, Repr, Inhabited

/-- what is logged about a conversion: a block string that is still open and, if the end was reached, every warning -/
def Conversion.records (t : Conversion) (source : Text) : List Record :=
  (t.unclosed.map fun line =>
    (⟨Level.warning, "Block string opened at line " ++ Text.ofNat line ++ " is not terminated"⟩ : Record)).toList ++
  match t.fault with
  | some _ => []
  | none => t.final.context.warnings.map fun w => ⟨Level.info, source ++ ": " ++ w.render⟩

/-- the line that names an input, before what it is converted to -/
def banner (layout : Layout) (source : Text) : Text := layout.commentPrefix ++ " ==> " ++ source ++ " <==\n"

/-- why a file was not converted -/
inductive FileFailure where
  | unreadable (fault : FileFault)
  | undecodable (fault : Utf8.Fault)
  | unconvertible (fault : Pattern.Fault)
deriving DecidableEq, Repr, Inhabited

namespace FileFailure

/-- a path that leads to no file is one thing, a path that may not be followed to its end another; any other way in which
it leads nowhere is not foreseen -/
def code : FileFailure → ExitCode
  | .unreadable ⟨.missing, _⟩ => .fileNotFound
  | .unreadable ⟨.isDirectory, _⟩ => .fileNotFound
  | .unreadable ⟨.denied, _⟩ => .permissionDenied
  | .unreadable _ => .pipelineError
  | .undecodable _ => .encodingError
  | .unconvertible _ => .pipelineError

def message : FileFailure → Text
  | .unreadable fault => fault.message
  | .undecodable fault => fault.message
  | .unconvertible fault => fault.message

/-- what is logged about the failure -/
def record (source : Text) (f : FileFailure) : Record :=
  ⟨Level.error,
    match f.code with
    | .fileNotFound => "File not found: " ++ source ++ " (" ++ f.message ++ ")"
    | .permissionDenied => "Permission denied: " ++ source ++ " (" ++ f.message ++ ")"
    | .encodingError => "Encoding error while reading " ++ source ++ ": " ++ f.message
    | _ => "Unexpected error translating " ++ source ++ ": " ++ f.message⟩

end FileFailure

/-- what came of a batch -/
structure Batch where
  output : Text := []
  /-- one report for each file that was converted -/
  reports : List Report := []
  /-- the code of the first failure -/
  code : Option ExitCode := none
  records : List Record := []
deriving DecidableEq, Repr, Inhabited

namespace Batch

/-- one batch after another -/
def append (a b : Batch) : Batch where
  output := a.output ++ b.output
  reports := a.reports ++ b.reports
  code := a.code.or b.code
  records := a.records ++ b.records

instance : Append Batch := ⟨append⟩

/-- the batch of one file that failed after some output -/
def failed (source output : Text) (f : FileFailure) : Batch :=
  { output, code := some f.code, records := [f.record source] }

/-- the batch of one text, after a heading -/
def ofText (config : Config) (heading source text : Text) : Batch :=
  let t := Conversion.ofText config text
  let output := heading ++ t.text config.layout
  match t.fault with
  | some fault => failed source output (.unconvertible fault)
  | none => { output, reports := [⟨source, t.final.context⟩], records := t.records source }

/-- the batch of one file -/
def file (config : Config) (tree : FileTree) (withBanner : Bool) (path : Text) : Batch :=
  let source := Path.tidy path
  match tree.readText source with
  | .error fault => failed source [] (.unreadable fault)
  | .ok (.error fault) => failed source [] (.undecodable fault)
  | .ok (.ok text) => ofText config (if withBanner then banner config.layout source else []) source text

/-- the files one after another -/
def run (config : Config) (tree : FileTree) (withBanner : Bool) : List Text → Batch
  | [] => {}
  | path :: rest => file config tree withBanner path ++ run config tree withBanner rest

theorem append_assoc (a b c : Batch) : a ++ b ++ c = a ++ (b ++ c) := by
  show append (append a b) c = append a (append b c)
  simp [append, List.append_assoc, Option.or_assoc]

theorem empty_append (a : Batch) : ({} : Batch) ++ a = a := by
  show append {} a = a
  simp [append]

/-- a batch of two lists of files is the one followed by the other -/
theorem run_append (config : Config) (tree : FileTree) (withBanner : Bool) (p q : List Text) :
    run config tree withBanner (p ++ q) = run config tree withBanner p ++ run config tree withBanner q := by
  induction p with
  | nil => rw [List.nil_append, run, empty_append]
  | cons path rest ih => rw [List.cons_append, run, run, ih, append_assoc]

end Batch

end Linewise
