/-
The settings of a conversion: the layout of the input and the substitution tables, with the sources they were merged
from and the warnings met on the way.
-/
import Linewise.Config.Tables
import Linewise.Warning

namespace Linewise

/-- how the input is laid out, and what stands for its layout in the output -/
structure Layout where
  /-- how far one block is indented; one terminator is emitted for every such step back -/
  indentWidth : Nat
  /-- the line that closes a block -/
  terminator : Text
  /-- what a comment begins with -/
  commentPrefix : Text
  /-- what joins a line to the next, at its end -/
  continuationMarker : Text
  /-- what opens a block, at the end of its header; it is dropped -/
  blockOpener : Text
  /-- what opens and closes a block string, in the order in which they are tried -/
  blockStringDelimiters : List Text
  /-- the words that continue the block before them -/
  continuationKeywords : List Text
deriving DecidableEq, Repr, Inhabited

/-- the settings of a conversion -/
structure Config where
  layout : Layout
  tables : Tables
  /-- the documents that were merged, in order -/
  sources : List Text := []
  warnings : List Warning := []
deriving DecidableEq, Inhabited

end Linewise
