/-
The edits of one statement, each a replacement of every occurrence of a fixed pattern: raw strings, formatting,
constructor calls, and references to the receiver. `replaceReserved` applies the patterns of a table instead.
-/
import Linewise.Pattern.Pieces

namespace Linewise.Edit

open Pattern

/-- a word boundary, `r`, and a string in either quote: groups 1 (the quote) and 2 (the content) -/
def rawString : Pattern :=
  .ofList [wordBoundary, char 'r', .group 1 (oneOf ['\'', '"']), .group 2 (.many any 0 none .lazy),
    .backReference 1 .exact]

/-- `r'a+'` becomes `/a+/` -/
def replaceRawStrings (t : Text) : Text := rawString.replace (fun h => ['/'] ++ h.group 2 ++ ['/']) t

/-- a string in this quote (group 1), a percent sign and an opening parenthesis -/
def formatIn (quote : Char) : Pattern :=
  .ofList [.group 1 (.ofList [char quote, star (noneOf [quote]), char quote]), star blank, char '%', star blank,
    char '(']

def replaceFormatIn (quote : Char) (t : Text) : Text :=
  (formatIn quote).replace (fun h => "sprintf(" ++ h.group 1 ++ ", ") t

/-- `"fmt" % (args)` becomes `sprintf("fmt", args)`, for strings in double quotes first -/
def replaceFormats (t : Text) : Text := replaceFormatIn '\'' (replaceFormatIn '"' t)

/-- a name that begins with an ASCII capital (group 1) and an opening parenthesis -/
def constructorCall : Pattern :=
  .ofList [wordBoundary, .group 1 (.ofList [.one ⟨[.span 'A'.toNat 'Z'.toNat], false⟩ .exact, star wordChar]),
    char '(']

/-- the word `class` at the start of a statement -/
def classHeader : Pattern := .ofList (chars "class" ++ [wordBoundary])

/-- the statement is a class header, whose list of bases stays as it is -/
def isClassHeader (t : Text) : Bool := (classHeader.matchStart t).isSome

/-- `Foo(x)` becomes `Foo.new(x)`, except in class headers -/
def replaceConstructors (t : Text) : Text :=
  if isClassHeader t then t else constructorCall.replace (fun h => h.group 1 ++ ".new(") t

/-- a method called on the receiver: its name, with blanks after it, is group 1 -/
def selfCall : Pattern :=
  .ofList (wordBoundary :: chars "self." ++ [.group 1 (.ofList [plus wordChar, star blank]), char '('])

/-- an attribute of the receiver, up to its name and one leading underscore -/
def selfAttribute : Pattern :=
  .ofList (wordBoundary :: chars "self." ++ [.many (char '_') 0 (some 1) .greedy])

/-- `self.run(x)` becomes `run(x)`; `self.name` and `self._name` become `@name` -/
def replaceSelf (t : Text) : Text :=
  selfAttribute.replace (fun _ => ['@']) (selfCall.replace (fun h => h.group 1 ++ ['(']) t)

/-- each pattern in turn, over the whole text; replacements are inserted as they are -/
def replaceReserved (patterns : List (Pattern × Text)) (t : Text) : Text :=
  patterns.foldl (fun s e => e.1.replace (fun _ => e.2) s) t

end Linewise.Edit
