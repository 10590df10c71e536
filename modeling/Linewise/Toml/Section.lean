/-
The lines of a settings document, by section.

A document is a sequence of lines: blank lines, comments, headers, and keys with their values. A section is what a
header begins: the entries up to the next header. If a line cannot be read, the document ends with it, and the section
that it stands in holds the fault.
-/
import Linewise.Toml.Nested

namespace Linewise.Toml

/-- a key of one part or more with its value -/
abbrev Assignment := List Text × Value

/-- what stands between two headers, and what is wrong with the line after it -/
structure Paragraph where
  assignments : List Assignment := []
  fault : Option Stop := none
deriving Inhabited

/-- a header with what stands below it -/
structure Section where
  /-- the header names an element of an array of tables -/
  ofArray : Bool
  path : List Text
  paragraph : Paragraph
  /-- the document from the header on -/
  text : Text
deriving Inhabited

/-- a document as it is laid out -/
structure Outline where
  top : Paragraph := {}
  sections : List Section := []
deriving Inhabited

/-- a key with its value, to the end of the line -/
def readAssignment (t : Text) : Except Stop (Assignment × Text) := do
  let (keys, rest) ← readKey t
  match rest with
  | '=' :: rest =>
    let (v, rest) ← readWhole (skipSpaces rest)
    return ((keys, v), ← readLineEnd rest)
  | rest => stopAt rest

/-- the path of a header, after its opening bracket, and whether a second one follows -/
def readPath (t : Text) : Except Stop ((Bool × List Text) × Text) :=
  let ofArray := t.head? == some '['
  (readKey (if ofArray then t.drop 1 else t)).map fun (path, rest) => ((ofArray, path), rest)

/-- the closing brackets of a header, to the end of the line -/
def readHeaderEnd (ofArray : Bool) : Text → Except Stop Text
  | ']' :: rest =>
    if !ofArray then readLineEnd rest
    else match rest with
      | ']' :: rest => readLineEnd rest
      | rest => stopAt rest
  | rest => stopAt rest

namespace Outline

/-- a document whose first line cannot be read -/
def ofFault (s : Stop) : Outline := { top := { fault := some s } }

/-- an assignment before everything else -/
def cons (a : Assignment) (o : Outline) : Outline :=
  { o with top := { o.top with assignments := a :: o.top.assignments } }

/-- a header before everything else -/
def underHeader (ofArray : Bool) (path : List Text) (t : Text) (o : Outline) : Outline :=
  { sections := ⟨ofArray, path, o.top, t⟩ :: o.sections }

/-- the lines of a document; a header whose path can be read begins a section, even if its line goes on wrongly -/
def readLines : Nat → Text → Outline
  | 0, _ => {}
  | fuel + 1, t =>
    match skipSpaces t with
    | [] => {}
    | '\n' :: rest => readLines fuel rest
    | '#' :: rest =>
      match readComment rest with
      | .ok rest => readLines fuel (rest.drop 1)
      | .error s => ofFault s
    | '[' :: line =>
      match readPath line with
      | .error s => ofFault s
      | .ok ((ofArray, path), rest) =>
        match readHeaderEnd ofArray rest with
        | .error s => (ofFault s).underHeader ofArray path line
        | .ok rest => (readLines fuel rest).underHeader ofArray path line
    | line =>
      match readAssignment line with
      | .error s => ofFault s
      | .ok (a, rest) => (readLines fuel rest).cons a

/-- the lines of a document -/
def read (t : Text) : Outline := readLines (t.length + 1) t

end Outline

end Linewise.Toml
