/-
Blank characters: the white space of Unicode, together with the four ASCII separators U+001C to U+001F.

Zero-width characters are not blank. `trimRight` and `trim` drop blanks at the ends of a text.
-/
import Linewise.Text.Basic
import Linewise.Text.Ranges

namespace Linewise

/-- where membership among the blank characters changes, from code point 0 up -/
def blankBounds : List Nat :=
  [0x9, 0xe, 0x1c, 0x21, 0x85, 0x86, 0xa0, 0xa1, 0x1680, 0x1681, 0x2000, 0x200b, 0x2028, 0x202a, 0x202f, 0x2030,
    0x205f, 0x2060, 0x3000, 0x3001]

/-- a character that counts as white space -/
def isBlank (c : Char) : Bool := inBounds blankBounds c.toNat

namespace Text

/-- the text without blanks at its end -/
def trimRight (t : Text) : Text := dropEndWhile isBlank t

/-- the text without blanks at its start -/
def trimLeft (t : Text) : Text := t.dropWhile isBlank

/-- the text without blanks at either end -/
def trim (t : Text) : Text := trimRight (trimLeft t)

@[simp] theorem trimRight_nil : trimRight [] = [] := rfl

end Text

end Linewise
