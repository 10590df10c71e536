/-
Settings from files: which documents are looked for, in which order they are merged, and how reading one can fail.

A project keeps its settings in a file of their own or in a section of the project file; the file of their own is merged
later and so wins. Loading stops at the first document that cannot be read, and keeps what was merged before it.
-/
import Linewise.Config.Document
import Linewise.FileTree
import Linewise.Log
import Linewise.Text.Newline
import Linewise.Toml.Reader

namespace Linewise

/-- the name of the project file -/
def projectFile : Text := "pyproject.toml"

/-- the path of the section of the project file that holds the settings -/
def projectSection : List Text := ["tool", "py2rb"]

/-- the name of the file that holds only settings -/
def settingsFile : Text := "py2rb.toml"

/-- the files that are looked for in a directory, in the order in which they are merged -/
def settingsNames : List Text := [projectFile, settingsFile]

/-- a document: where it is, and how it is named in messages -/
structure Source where
  path : Text
  shown : Text
deriving DecidableEq, Repr, Inhabited

/-- a document that is named as its path is written -/
def Source.ofPath (path : Text) : Source := ⟨Path.tidy path, Path.tidy path⟩

/-- why a document cannot be loaded -/
inductive LoadCause where
  | unreadable (fault : FileFault)
  /-- it cannot be found out whether there is a document -/
  | uncertain (fault : FileFault)
  | undecodable (fault : Utf8.Fault)
  | malformed (fault : Toml.Fault)
  /-- the document says two things that cannot both hold -/
  | clashing (clash : Toml.Clash)
  /-- a warning about the document cannot be made -/
  | unshowable (fault : Checked.Unshowable)
deriving DecidableEq, Repr, Inhabited

/-- why a document cannot be loaded, if it cannot be read -/
def LoadCause.ofReadFault : Toml.ReadFault → LoadCause
  | .malformed fault => .malformed fault
  | .clashing clash => .clashing clash

/-- a document that cannot be loaded -/
structure LoadFault where
  shown : Text
  cause : LoadCause
deriving DecidableEq, Repr, Inhabited

/-- what is logged about a document that cannot be loaded: nothing before it is opened, if its bytes are no text, or if
the fault lies in what the document says -/
def LoadFault.records (f : LoadFault) : List Record :=
  match f.cause with
  | .unreadable fault =>
    if fault.cause = .nullCharacter then []
    else [⟨Level.error, "Error loading TOML from " ++ f.shown ++ ": " ++ fault.message⟩]
  | .uncertain _ => []
  | .undecodable _ => []
  | .clashing _ => []
  | .unshowable _ => []
  | .malformed fault => [⟨Level.error, "Error decoding TOML from " ++ f.shown ++ ": " ++ fault.message⟩]

namespace FileTree

/-- the text of a file, with universal newlines -/
def readText (t : FileTree) (path : Text) : Except FileFault (Except Utf8.Fault Text) :=
  (t.read path).map fun bytes => (Utf8.decode bytes).map Text.universalNewlines

/-- the entries of a document; a fault names it as it is shown -/
def readEntries (t : FileTree) (s : Source) : Except LoadFault Entries :=
  match t.readText s.path with
  | .error fault => .error ⟨s.shown, .unreadable ⟨fault.cause, s.shown⟩⟩
  | .ok (.error fault) => .error ⟨s.shown, .undecodable fault⟩
  | .ok (.ok text) =>
    match Toml.read text with
    | .error fault => .error ⟨s.shown, .ofReadFault fault⟩
    | .ok es => .ok es

/-- the sections of a path below the entries, empty if one of them is missing or no table -/
def sectionAt (es : Entries) (path : List Text) : Entries := path.foldl Checked.table es

/-- the layer of a document; a project file without settings has none -/
def readDraft (t : FileTree) (s : Source) : Except LoadFault (Option Draft) := do
  let es ← t.readEntries s
  let ofProject : Bool := Path.fileName s.path = projectFile
  let settings := if ofProject then sectionAt es projectSection else es
  if ofProject && settings.isEmpty then return none
  return some (← (Draft.ofEntries settings (some s.shown)).mapError fun fault => ⟨s.shown, .unshowable fault⟩)

end FileTree

/-- the drafts merged so far, and why merging stopped -/
structure Loading where
  draft : Draft
  fault : Option LoadFault := none
deriving DecidableEq, Inhabited

namespace Loading

/-- merge the documents over a draft, one after another -/
def load (t : FileTree) (draft : Draft) : List Source → Loading
  | [] => { draft }
  | s :: rest =>
    match t.readDraft s with
    | .error fault => { draft, fault := some fault }
    | .ok none => load t draft rest
    | .ok (some layer) => load t (draft.merge layer) rest

/-- the documents that are merged over the standard settings: the ones found, then the ones asked for -/
def merged (t : FileTree) (found extra : List Source) : Loading := load t Draft.standard (found ++ extra)

/-- what is logged when nothing stopped the merging and the draft is frozen as it is: every warning; when a document did,
the warnings before it and its fault -/
def records (l : Loading) : List Record :=
  l.draft.warnings.map (fun w => ⟨Level.warning, w.message⟩) ++ (l.fault.map LoadFault.records).getD []

end Loading

/-- the fault tells that nothing can be found where a path leads -/
def FileCause.isAbsence : FileCause → Bool
  | .missing | .notDirectory | .tooManyLinks | .nullCharacter => true
  | .isDirectory | .nameTooLong | .denied => false

/-- there is a file where a document is looked for. A path that cannot be looked up is a fault, one that leads nowhere is
not -/
def FileTree.hasFile (t : FileTree) (s : Source) : Except LoadFault Bool :=
  match t.find s.path with
  | .ok (_, .file _) => .ok true
  | .ok (_, .directory) => .ok false
  | .error cause => if cause.isAbsence then .ok false else .error ⟨s.shown, .uncertain ⟨cause, s.shown⟩⟩

/-- the documents that are there -/
def FileTree.filesAmong (t : FileTree) : List Source → Except LoadFault (List Source)
  | [] => .ok []
  | s :: rest => do
    let isThere ← t.hasFile s
    let others ← t.filesAmong rest
    return if isThere then s :: others else others

/-- the settings files in a directory that is named `shown` in messages -/
def discover (t : FileTree) (directory shown : Text) : Except LoadFault (List Source) :=
  t.filesAmong (settingsNames.map fun name => ⟨Path.child directory name, Path.child shown name⟩)

end Linewise
