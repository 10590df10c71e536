/-
Texts as messages quote them.

The quotes are single, or double when the text holds a single quote and no double one. The quote in use, backslashes and
whatever is not printable are escaped; everything else stands as it is.
-/
import Linewise.Text.Basic
import Linewise.Text.Printable

namespace Linewise.Text

/-- the quote that a text is shown in -/
def quoteFor (t : Text) : Char :=
  if t.contains '\'' && !t.contains '"' then '"' else '\''

/-- one character between quotes -/
def quotedChar (quote c : Char) : Text :=
  if c = quote || c = '\\' then ['\\', c]
  else if c = '\t' then "\\t"
  else if c = '\n' then "\\n"
  else if c = '\r' then "\\r"
  else if isPrintable c then [c]
  else if c.toNat < 0x100 then "\\x" ++ hex 2 c.toNat
  else if c.toNat < 0x10000 then "\\u" ++ hex 4 c.toNat
  else "\\U" ++ hex 8 c.toNat

/-- the text between quotes -/
def quoted (t : Text) : Text :=
  let quote := quoteFor t
  quote :: t.flatMap (quotedChar quote) ++ [quote]

end Linewise.Text
