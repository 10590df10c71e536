/-
Cutting a text into lines.

A line ends with a line feed and with nothing else: a carriage return, a form feed or a Unicode line separator inside a
line never splits it. Files are first read with universal newlines, which turns a carriage return, alone or before a
line feed, into one line feed.
-/
import Linewise.Text.Basic

namespace Linewise.Text

/-- the lines of a text, each with its line feed; a last line may lack it, and is never empty -/
def lines : Text → List Text
  | [] => []
  | c :: rest =>
    if c = '\n' then [c] :: lines rest
    else match rest, lines rest with
      | _ :: _, line :: more => (c :: line) :: more
      | _, more => [c] :: more

/-- the lines of a text that have their line feed, all of them but perhaps the last -/
def wholeLines (t : Text) : List Text := (lines t).filter (·.endsWith ['\n'])

/-- every carriage return, alone or before a line feed, becomes one line feed -/
def universalNewlines : Text → Text
  | [] => []
  | '\r' :: '\n' :: rest => '\n' :: universalNewlines rest
  | '\r' :: rest => '\n' :: universalNewlines rest
  | c :: rest => c :: universalNewlines rest

/-- a line without the carriage returns and line feeds at its end -/
def chomp (line : Text) : Text := dropEndWhile (fun c => c == '\r' || c == '\n') line

end Linewise.Text
