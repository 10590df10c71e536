/-
Indentation: the white space a line begins with, and the column it reaches.

Only spaces, tabs, form feeds and vertical tabs indent. A tab goes on to the next multiple of `tabStop`, every other
character takes one column. `width_spaces`: indentation written out in spaces measures what it was written for.
-/
import Linewise.Text.Blank

namespace Linewise.Indent

/-- the distance of the columns that tabs go to -/
def tabStop : Nat := 8

/-- a character that can indent a line -/
def isIndentChar (c : Char) : Bool := c == ' ' || c == '\t' || c == '\x0c' || c == '\x0b'

/-- the column after one more character -/
def advance (column : Nat) (c : Char) : Nat :=
  if c = '\t' then (column / tabStop + 1) * tabStop else column + 1

/-- the column that a run of white space reaches -/
def width (whitespace : Text) : Nat := whitespace.foldl advance 0

/-- the white space a line begins with -/
def leading (raw : Text) : Text := raw.takeWhile isIndentChar

/-- what follows it, without blanks at the end -/
def rest (raw : Text) : Text := Text.trimRight (raw.dropWhile isIndentChar)

theorem foldl_advance_spaces (n column : Nat) : (Text.spaces n).foldl advance column = column + n := by
  induction n generalizing column with
  | zero => rfl
  | succ n ih =>
    have h : Text.spaces (n + 1) = ' ' :: Text.spaces n := rfl
    rw [h, List.foldl_cons, ih, advance, if_neg (by decide)]
    omega

theorem width_spaces (n : Nat) : width (Text.spaces n) = n := by
  rw [width, foldl_advance_spaces, Nat.zero_add]

end Linewise.Indent
