/-
A file tree, seen from a working directory and by one user.

A place is the list of the names that lead to it from the root, innermost first. A file with several names stands at one
of their places, and the other names lead there. `walk` follows the components of a path one by one, goes on through
symbolic links, and stops at the first component that cannot be followed. Of a tree only what was put into it is known;
the directories above the working directory are empty but for what leads to it, and what is not denied may be done.
-/
import Linewise.Path
import Linewise.Text.Quoted
import Linewise.Text.Utf8

namespace Linewise

/-- what stands at a place -/
inductive Entry where
  | file (content : Bytes)
  | directory
deriving DecidableEq, Repr, Inhabited

/-- the names that lead to a place from the root, innermost first -/
abbrev Place := List Text

namespace Place

/-- the directory above a place; the root is above itself -/
def above (p : Place) : Place := p.tail

/-- the place as a path -/
def toPath (p : Place) : Text := '/' :: Text.join ['/'] p.reverse

end Place

/-! ### Faults -/

/-- why a path leads nowhere -/
inductive FileCause where
  | missing
  | notDirectory
  | isDirectory
  | nameTooLong
  | nullCharacter
  /-- the user may not do this here -/
  | denied
  | tooManyLinks
deriving DecidableEq, Repr, Inhabited

/-- a path that leads nowhere -/
structure FileFault where
  cause : FileCause
  path : Text
deriving DecidableEq, Repr, Inhabited

/-- the number of the system's error -/
def FileCause.number : FileCause → Nat
  | .missing => 2
  | .notDirectory => 20
  | .isDirectory => 21
  | .nameTooLong => 36
  | .nullCharacter => 22
  | .denied => 13
  | .tooManyLinks => 40

/-- the system's words for the error -/
def FileCause.words : FileCause → Text
  | .missing => "No such file or directory"
  | .notDirectory => "Not a directory"
  | .isDirectory => "Is a directory"
  | .nameTooLong => "File name too long"
  | .nullCharacter => "embedded null byte"
  | .denied => "Permission denied"
  | .tooManyLinks => "Too many levels of symbolic links"

/-- the fault in one line; a path that the system is never asked about has no error number -/
def FileFault.message (f : FileFault) : Text :=
  match f.cause with
  | .nullCharacter => f.cause.words
  | cause => "[Errno " ++ Text.ofNat cause.number ++ "] " ++ cause.words ++ ": " ++ Text.quoted f.path

/-! ### Trees -/

/-- what may be done at a place -/
inductive Right where
  /-- to look into a file, or at the names in a directory -/
  | read
  /-- to write to a file, or to make a new one in a directory -/
  | write
  /-- to go on from a directory -/
  | search
deriving DecidableEq, Repr, Inhabited

/-- the entries and the symbolic links by place; the first one for a place counts, and links before entries -/
structure FileTree where
  /-- the working directory -/
  base : Place := []
  entries : List (Place × Entry) := []
  links : List (Place × Text) := []
  /-- the further names of files (hard links), with the places where the files stand -/
  aliases : List (Place × Place) := []
  /-- what the user may not do with what stands at a place -/
  denied : List (Place × Right) := []
deriving DecidableEq, Repr, Inhabited

namespace FileTree

/-- what stands at a place; the working directory and those above it are always there -/
def entry? (t : FileTree) (p : Place) : Option Entry :=
  if p.isSuffixOf t.base then some .directory else t.entries.lookup p

/-- the path that a symbolic link at a place holds -/
def link? (t : FileTree) (p : Place) : Option Text := t.links.lookup p

/-- where the file with the name of a place stands -/
def standing (t : FileTree) (p : Place) : Place := (t.aliases.lookup p).getD p

/-- the user may do something with what stands at a place -/
def allows (t : FileTree) (p : Place) (r : Right) : Bool := !t.denied.contains (p, r)

/-- the tree with an entry at a place, whatever stood there; with a new one everything may be done -/
def put (t : FileTree) (p : Place) (e : Entry) : FileTree where
  base := t.base
  entries := (p, e) :: t.entries
  links := t.links
  aliases := t.aliases
  denied := if (t.entry? p).isSome then t.denied else t.denied.filter (·.1 ≠ p)

/-- the tree in which something may not be done with what stands at a place -/
def deny (t : FileTree) (p : Place) (r : Right) : FileTree := { t with denied := (p, r) :: t.denied }

/-- the tree with a symbolic link at a place -/
def putLink (t : FileTree) (p : Place) (target : Text) : FileTree := { t with links := (p, target) :: t.links }

/-- the tree with a directory at a place and at every place above it, where nothing stands yet -/
def putDirectories (t : FileTree) : Place → FileTree
  | [] => t
  | name :: rest =>
    let t := putDirectories t rest
    if (t.entry? (name :: rest)).isSome then t else t.put (name :: rest) .directory

/-- the tree with an entry at a path of plain names, from the working directory on, and the directories that lead to it -/
def add (t : FileTree) (path : Text) (e : Entry) : FileTree :=
  let p := (Path.names path).reverse ++ t.base
  match e with
  | .directory => t.putDirectories p
  | e => (t.putDirectories p.tail).put p e

/-- the tree of a list of paths and entries -/
def ofList (es : List (Text × Entry)) (base : Place := []) : FileTree := es.foldl (fun t e => t.add e.1 e.2) { base }

/-- the greatest number of bytes in a name -/
def maxName : Nat := 255

/-- the greatest number of bytes in a path -/
def maxPath : Nat := 4095

/-- the greatest number of symbolic links on the way along a path -/
def maxLinks : Nat := 40

/-- where a path goes on, if it starts at a place -/
def startFrom (p : Place) (path : Text) : Place := if Path.isAbsolute path then [] else p

/-- where a component leads -/
inductive Move where
  | place (p : Place)
  /-- to a symbolic link: its components are followed from a place -/
  | link (p : Place) (names : List Text)
deriving DecidableEq, Repr, Inhabited

/-- where a component leads from a place. A component that is not empty is looked up in the directory that stands there -/
def move (t : FileTree) (p : Place) (name : Text) : Except FileCause Move :=
  match t.entry? p with
  | none => .error .missing
  | some (.file _) => .error .notDirectory
  | some .directory =>
    if name.isEmpty then .ok (.place p)
    else if !t.allows p .search then .error .denied
    else if name = Path.here then .ok (.place p)
    else if name = Path.up then .ok (.place p.above)
    else if maxName < (Utf8.encode name).length then .error .nameTooLong
    else match t.link? (name :: p) with
      | some target => .ok (.link (startFrom p target) (Path.components target))
      | none => .ok (.place (t.standing (name :: p)))

/-- how far components can be followed -/
structure Walk where
  /-- the places on the way, from the first on -/
  places : List Place := []
  /-- the place at the end, or why there is none -/
  result : Except FileCause Place

/-- the walk that goes on from one more place -/
def Walk.after (p : Place) (w : Walk) : Walk := { w with places := p :: w.places }

/-- follow components from a place; `follow` goes on from a symbolic link -/
def walkBy (t : FileTree) (follow : Place → List Text → Walk) (p : Place) : List Text → Walk
  | [] => { places := [p], result := .ok p }
  | name :: rest => Walk.after p <|
    match t.move p name with
    | .error cause => { result := .error cause }
    | .ok (.place q) => walkBy t follow q rest
    | .ok (.link q names) => follow q (names ++ rest)

/-- follow components from a place, over at most `links` symbolic links; what stands at the end is not looked at -/
def walk (t : FileTree) (links : Nat) : Place → List Text → Walk :=
  match links with
  | 0 => t.walkBy fun _ _ => { result := .error .tooManyLinks }
  | links + 1 => t.walkBy (t.walk links)

/-- what a path must satisfy before it is looked up -/
def checkPath (path : Text) : Except FileCause Unit :=
  if path.contains '\x00' then .error .nullCharacter
  else if path.isEmpty then .error .missing
  else if maxPath < (Utf8.encode path).length then .error .nameTooLong
  else .ok ()

/-- where a path starts -/
def start (t : FileTree) (path : Text) : Place := startFrom t.base path

/-- follow a path -/
def follow (t : FileTree) (path : Text) : Walk := t.walk maxLinks (t.start path) (Path.components path)

/-- the place that a path leads to and what stands there -/
def find (t : FileTree) (path : Text) : Except FileCause (Place × Entry) := do
  checkPath path
  let p ← (t.follow path).result
  match t.entry? p with
  | some e => .ok (p, e)
  | none => .error .missing

/-- the content of the file at a path -/
def read (t : FileTree) (path : Text) : Except FileFault Bytes :=
  match t.find path with
  | .error cause => .error ⟨cause, path⟩
  | .ok (p, e) =>
    if !t.allows p .read then .error ⟨.denied, path⟩
    else match e with
      | .file content => .ok content
      | .directory => .error ⟨.isDirectory, path⟩

/-- the components of a path without the empty ones at its end, and whether there were such -/
def withoutSlashes (path : Text) : List Text × Bool :=
  let all := Path.components path
  let kept := (all.reverse.dropWhile List.isEmpty).reverse
  (kept, kept.length < all.length)

/-- a file can be written at a place: no directory stands there, and a new one can be made in the directory above -/
def checkWritable (t : FileTree) (p : Place) : Except FileCause Unit :=
  match t.entry? p with
  | some .directory => .error .isDirectory
  | some (.file _) => if t.allows p .write then .ok () else .error .denied
  | none => if t.allows p.above .write then .ok () else .error .denied

/-- the place of the file that opening a path for writing empties or creates. A path that ends with a slash means a
directory, and its last component is not looked up -/
def findWritable (t : FileTree) (path : Text) : Except FileFault Place :=
  let found : Except FileCause Place := do
    checkPath path
    let (names, slashes) := withoutSlashes path
    if slashes then
      let _ ← (t.walk maxLinks (t.start path) (names.dropLast ++ [Path.here])).result
      .error .isDirectory
    else
      let p ← (t.walk maxLinks (t.start path) names).result
      t.checkWritable p
      return p
  found.mapError fun cause => ⟨cause, path⟩

end FileTree

end Linewise
