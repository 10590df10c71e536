/-
The settings of a command: the documents its options ask for, checked, merged, and put in force.
-/
import Linewise.CommandLine.Ending

namespace Linewise

/-- a path that an option names cannot be used -/
def pathMisuse (option path fault : Text) : Halt :=
  .misuse (.invalidValue option ("File " ++ Text.quoted path ++ " " ++ fault))

/-- a file that settings are read from exists, is no directory and may be read -/
def checkSettingsFile (t : FileTree) (path : Text) : Except Halt Unit :=
  match t.find path with
  | .ok (_, .directory) => .error (pathMisuse "--config" path "is a directory.")
  | .ok (p, .file _) => if t.allows p .read then .ok () else .error (pathMisuse "--config" path "is not readable.")
  | .error .nullCharacter => .error (.crashed (.path ⟨.nullCharacter, path⟩))
  | .error _ => .error (pathMisuse "--config" path "does not exist.")

/-- a file that is written to is no directory; one that exists may be read and written -/
def checkOutput (t : FileTree) (path : Text) : Except Halt Unit :=
  match t.find path with
  | .ok (_, .directory) => .error (pathMisuse "--output" path "is a directory.")
  | .ok (p, .file _) =>
    if !t.allows p .read then .error (pathMisuse "--output" path "is not readable.")
    else if !t.allows p .write then .error (pathMisuse "--output" path "is not writable.")
    else .ok ()
  | .error .nullCharacter => .error (.crashed (.path ⟨.nullCharacter, path⟩))
  | .error _ => .ok ()

/-- the paths that the options of a command name can be used -/
def Command.check (t : FileTree) : Command → Except Halt Unit
  | .convert _ output settings => do
    settings.files.forM (checkSettingsFile t)
    match output with
    | some path => checkOutput t path
    | none => .ok ()
  | .dumpConfig settings => settings.files.forM (checkSettingsFile t)
  | .version _ => .ok ()

/-- the failure of a command whose settings cannot be loaded -/
def LoadFault.halt (f : LoadFault) : Halt :=
  match f.cause with
  | .malformed fault => .refused .configError ("Invalid TOML in config file: " ++ fault.message)
  | .undecodable fault => .crashed (.undecodable fault)
  | .clashing clash => .crashed (.clash clash)
  | .unshowable fault => .crashed (.unshowable fault)
  | .unreadable fault =>
    if fault.cause = .nullCharacter then .crashed (.path fault)
    else .refused .configError ("Cannot read config file: " ++ fault.message)
  | .uncertain fault => .refused .configError ("Cannot read config file: " ++ fault.message)

/-- the documents that the options ask for, in order: those in the working directory, then those that they name -/
def World.documents (w : World) (o : SettingsOptions) : Except LoadFault (List Source) :=
  let named := o.files.map Source.ofPath
  if o.noConfig then .ok named else (discover w.tree Path.here w.directory).map (· ++ named)

/-- the documents merged over the standard settings -/
def World.load (w : World) (o : SettingsOptions) : Loading :=
  match w.documents o with
  | .error fault => { draft := .standard, fault := some fault }
  | .ok sources => .load w.tree .standard sources

/-- the draft with the unit that the options set -/
def SettingsOptions.override (o : SettingsOptions) (d : Draft) : Draft :=
  { d with layout := { d.layout with indentWidth := o.indentWidth.or d.layout.indentWidth } }

/-- a warning about settings is logged -/
def Warning.event (w : Warning) : Event := .logged ⟨Level.warning, w.message⟩

/-- the failure of a command whose settings cannot be put in force -/
def ConfigFault.crash : ConfigFault → Crash
  | .unshowable fault => .unshowable fault
  | .pattern fault => .pattern fault

/-- the settings in force, or why there are none and what was logged before -/
def World.settings (w : World) (o : SettingsOptions) : Except Ending Config :=
  let loading := w.load o
  match loading.fault with
  | some fault => .error (fault.halt.ending (loading.records.map .logged))
  | none =>
    let draft := o.override loading.draft
    draft.freeze.mapError fun fault => (Halt.crashed fault.crash).ending (draft.sanitize.warnings.map Warning.event)

/-- what is logged about settings that are in force -/
def Config.events (c : Config) : List Event := c.warnings.map Warning.event

end Linewise
