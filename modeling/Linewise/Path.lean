/-
Paths as they are written: components between slashes.

`tidy` is the spelling in which a path is shown: doubled slashes and `.` components are dropped, `..` is kept, since what
it leads to depends on what stands there. Looking a path up is the file tree's work.
-/
import Linewise.Text.Basic

namespace Linewise.Path

/-- the component that stands for the directory itself -/
def here : Text := "."

/-- the component that stands for the directory above -/
def up : Text := ".."

/-- what stands between the slashes, empty components too -/
def components (p : Text) : List Text := Text.splitOn '/' p

/-- the path starts at the root -/
def isAbsolute (p : Text) : Bool := p.startsWith ['/']

/-- the components that lead somewhere -/
def names (p : Text) : List Text := (components p).filter fun name => !name.isEmpty && name != here

/-- the root a path starts at, if any: one slash, or two if there are exactly two -/
def root (p : Text) : Text :=
  match p.takeWhile (· == '/') with
  | [] => []
  | ['/', '/'] => ['/', '/']
  | _ => ['/']

/-- the path without what it does not need -/
def tidy (p : Text) : Text :=
  match root p ++ Text.join ['/'] (names p) with
  | [] => here
  | t => t

/-- the last name of a path, empty if it has none -/
def fileName (p : Text) : Text := (names p).getLast?.getD []

/-- the path of a name in a directory -/
def child (directory name : Text) : Text :=
  let d := tidy directory
  if d = here then name else if d.endsWith ['/'] then d ++ name else d ++ '/' :: name

end Linewise.Path
