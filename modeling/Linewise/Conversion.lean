/-
Converting whole texts.

`run` feeds lines one after another and finishes; the text of a conversion is its output lines, each with a line feed.
A fault stops the run at its line: what was emitted before stays. `feedAll` stops where the lines end, for an input that
breaks off.
-/
import Linewise.Assembler

namespace Linewise

/-- the course of a conversion -/
structure Conversion where
  /-- the lines that were emitted -/
  lines : List OutLine
  /-- the state at the end -/
  final : Assembler
  /-- why the conversion stopped before the end of its input -/
  fault : Option Pattern.Fault
  /-- the line of the block string that was open at the end of the input -/
  unclosed : Option Nat
deriving DecidableEq, Repr, Inhabited

namespace Conversion

/-- feed the lines one after another, then finish -/
def run (config : Config) (a : Assembler) : List Text → Conversion
  | [] => ⟨(a.finish config).1, (a.finish config).2, none, a.openLine?⟩
  | line :: rest =>
    match a.feed config line with
    | (.error fault, b) => ⟨[], b, some fault, none⟩
    | (.ok out, b) =>
      let more := run config b rest
      { more with lines := out ++ more.lines }

/-- feed the lines one after another, with the end of the input still to come -/
def feedAll (config : Config) (a : Assembler) : List Text → Conversion
  | [] => ⟨[], a, none, none⟩
  | line :: rest =>
    match a.feed config line with
    | (.error fault, b) => ⟨[], b, some fault, none⟩
    | (.ok out, b) =>
      let more := feedAll config b rest
      { more with lines := out ++ more.lines }

/-- the conversion of lines, from the start -/
def ofLines (config : Config) (lines : List Text) : Conversion := run config {} lines

/-- the conversion of a text -/
def ofText (config : Config) (t : Text) : Conversion := ofLines config (Text.lines t)

/-- the emitted lines as they are written -/
def rendered (layout : Layout) (t : Conversion) : List Text := t.lines.map (OutLine.render layout)

/-- the emitted text -/
def text (layout : Layout) (t : Conversion) : Text := (t.rendered layout).flatMap fun line => line ++ ['\n']

end Conversion

end Linewise
