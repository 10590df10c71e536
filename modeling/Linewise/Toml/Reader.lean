/-
Reading settings documents.

`read` gives the entries of a document in order, or says what is wrong. The sections below a section, whose paths go on
after its path, are said within its table; those below nothing are said at the top of the document. Sections of the same
array that follow each other are its elements. Lines end with a line feed; files are read with universal newlines
before.
-/
import Linewise.Toml.Section

namespace Linewise.Toml

namespace Section

/-- the section names a table within the table at a path -/
def isBelow (path : List Text) (s : Section) : Bool := path.isPrefixOf s.path && s.path != path

/-- the section is a further element of the array at a path, or stands below one -/
def isWithin (path : List Text) (s : Section) : Bool := (s.ofArray && s.path == path) || s.isBelow path

end Section

/-- an assignment within the table of a section: the pieces that a dotted key adds are compared at once -/
def assign (body : Body) (a : Assignment) : Except Clash Body :=
  ((Node.leaf a.2).under true a.1).foldlM (Body.add (decide (1 < a.1.length))) body

/-- the table that a paragraph fills -/
def readParagraph (text : Text) (p : Paragraph) : Except Stop Body := do
  let body ← refuse text (p.assignments.foldlM assign [])
  match p.fault with
  | none => return body
  | some s => throw s

mutual

/-- the table of a section with the sections below it -/
def readTable : Nat → Section → List Section → Except Stop Body
  | 0, _, _ => .ok []
  | fuel + 1, s, below => do
    let body ← readParagraph s.text s.paragraph
    let body ← readBelow fuel s.path body below
    refuse s.text body.checkAll
    return body

/-- say sections within the table at a path -/
def readBelow : Nat → List Text → Body → List Section → Except Stop Body
  | 0, _, body, _ => .ok body
  | _ + 1, _, body, [] => .ok body
  | fuel + 1, path, body, s :: following => do
    let (pieces, following) ← readSection fuel path s following
    let body ← refuse s.text (pieces.foldlM (Body.add false) body)
    readBelow fuel path body following

/-- what a section says within the table at a path, with the sections that belong to it, and the other sections -/
def readSection : Nat → List Text → Section → List Section → Except Stop (Body × List Section)
  | 0, _, _, following => .ok ([], following)
  | fuel + 1, path, s, following => do
    let (below, following) := following.span (·.isBelow s.path)
    let body ← readTable fuel s below
    let parts := s.path.drop path.length
    if !s.ofArray then return ((Node.table false body).under false parts, following)
    else if 1 < parts.length then return ((Node.tables [body]).under false parts, following)
    else
      let (more, following) := following.span (·.isWithin s.path)
      return ((Node.tables (← readElements fuel [body] more)).under false parts, following)

/-- the further elements of an array, each with the sections below it, before those read so far -/
def readElements : Nat → List Body → List Section → Except Stop (List Body)
  | 0, elements, _ => .ok elements
  | _ + 1, elements, [] => .ok elements
  | fuel + 1, elements, s :: following => do
    let (below, following) := following.span (·.isBelow s.path)
    let body ← readTable fuel s below
    readElements fuel (body :: elements) following

end

/-- say something at the top of the document `t`: a clash there has a place -/
def tellTop (t text : Text) (body pieces : Body) : Except ReadFault Body :=
  (refuse text (pieces.foldlM (Body.tell deepest true) body)).mapError fun s => .malformed (s.locate t)

/-- say sections at the top of the document `t` -/
def readTop (t : Text) : Nat → Body → List Section → Except ReadFault Body
  | 0, body, _ => .ok body
  | _ + 1, body, [] => .ok body
  | fuel + 1, body, s :: following => do
    let (pieces, following) ← (readSection (4 * following.length + 4) [] s following).mapError (Stop.fault t)
    let body ← tellTop t s.text body pieces
    readTop t fuel body following

/-- the entries of a document -/
def read (t : Text) : Except ReadFault Entries := do
  let outline := Outline.read t
  let body ← outline.top.assignments.foldlM (fun body a => tellTop t t body ((Node.leaf a.2).under true a.1)) []
  match outline.top.fault with
  | some s => throw (s.fault t)
  | none =>
    let body ← readTop t (outline.sections.length + 1) body outline.sections
    (body.gather deepest).mapError .clashing

end Linewise.Toml
