/-
Layout and strings of settings documents: spaces, comments, ends of lines, and the four kinds of string.

Basic strings escape with a backslash and literal strings do not; both may stand on one line or over several, where the
first line feed after the opening quotes does not count.
-/
import Linewise.Number.Integer
import Linewise.Toml.Fault

namespace Linewise.Toml

/-- a space or a tab -/
def isSpace (c : Char) : Bool := c == ' ' || c == '\t'

def skipSpaces (t : Text) : Text := t.dropWhile isSpace

/-- a control character other than the tab -/
def isControl (c : Char) : Bool := (c.toNat < 32 && c != '\t') || c == '\x7f'

/-- a comment after its number sign, up to the end of the line -/
def readComment : Text → Except Stop Text
  | [] => .ok []
  | c :: rest =>
    if c = '\n' then .ok (c :: rest)
    else if isControl c then stop (.controlCharacter c) (c :: rest)
    else readComment rest

/-- the rest of a line: spaces, perhaps a comment, and the end of the line -/
def readLineEnd (t : Text) : Except Stop Text :=
  match skipSpaces t with
  | [] => .ok []
  | '\n' :: rest => .ok rest
  | '#' :: rest => (readComment rest).map fun r => r.drop 1
  | c :: rest => stop (.unexpected c) (c :: rest)

/-- four digits or more begin so that they may stand for a character: a `d` goes on below eight, as the code points
after that are no characters -/
def mayBeCode : Text → Bool
  | c :: d :: _ :: _ => c.toLower != 'd' || ('0' ≤ d && d ≤ '7')
  | _ => true

/-- a character by the digits of its code point -/
def readCode (width : Nat) (t : Text) : Except Stop (Char × Text) :=
  let digits := t.take width
  if digits.length < width || !mayBeCode digits then stop .badEscape t
  else
    match Integer.readMarked? 16 'x' digits with
    | some (.ofNat n) => if (Char.ofNat n).toNat = n then .ok (Char.ofNat n, t.drop width) else stop .badEscape t
    | _ => stop .badEscape t

/-- the character after a backslash -/
def readEscape : Text → Except Stop (Char × Text)
  | 'b' :: rest => .ok ('\x08', rest)
  | 'e' :: rest => .ok ('\x1b', rest)
  | 't' :: rest => .ok ('\t', rest)
  | 'n' :: rest => .ok ('\n', rest)
  | 'f' :: rest => .ok ('\x0c', rest)
  | 'r' :: rest => .ok ('\r', rest)
  | '"' :: rest => .ok ('"', rest)
  | '\\' :: rest => .ok ('\\', rest)
  | 'x' :: rest => readCode 2 rest
  | 'u' :: rest => readCode 4 rest
  | 'U' :: rest => readCode 8 rest
  | t => stop .badEscape t

/-- a string on one line, after its opening quote; in a basic string a backslash escapes -/
def readShort (quote : Char) (basic : Bool) : Nat → Text → Except Stop (Text × Text)
  | 0, t => stop .unexpectedEnd t
  | _ + 1, [] => stop .unexpectedEnd []
  | fuel + 1, c :: rest =>
    if isControl c then stop (.controlCharacter c) (c :: rest)
    else if c = quote then .ok ([], rest)
    else if basic && c = '\\' then do
      let (d, rest) ← readEscape rest
      let (t, rest) ← readShort quote basic fuel rest
      return (d :: t, rest)
    else do
      let (t, rest) ← readShort quote basic fuel rest
      return (c :: t, rest)

/-- blanks and line ends after a backslash at the end of a line -/
def isFold (c : Char) : Bool := isSpace c || c == '\n'

/-- a string over several lines, after its opening quotes -/
def readLong (quote : Char) (basic : Bool) : Nat → Text → Except Stop (Text × Text)
  | 0, t => stop .unexpectedEnd t
  | _ + 1, [] => stop .unexpectedEnd []
  | fuel + 1, c :: rest =>
    if isControl c && c != '\n' then stop (.controlCharacter c) (c :: rest)
    else if c = quote then
      let quotes := (c :: rest).takeWhile (· == quote)
      let rest := (c :: rest).dropWhile (· == quote)
      if 6 ≤ quotes.length then stop .tooManyQuotes rest
      else if 3 ≤ quotes.length then .ok (quotes.drop 3, rest)
      else do
        let (t, rest) ← readLong quote basic fuel rest
        return (quotes ++ t, rest)
    else if basic && c = '\\' then
      match rest with
      | [] => stop .unexpectedEnd []
      | d :: _ =>
        if isFold d then
          if (rest.takeWhile isFold).contains '\n' then readLong quote basic fuel (rest.dropWhile isFold)
          else stop .badEscape (rest.dropWhile isFold)
        else do
          let (e, rest) ← readEscape rest
          let (t, rest) ← readLong quote basic fuel rest
          return (e :: t, rest)
    else do
      let (t, rest) ← readLong quote basic fuel rest
      return (c :: t, rest)

/-- a string that begins with this quote, and whether it is one of several lines -/
def readString (quote : Char) (t : Text) : Except Stop ((Text × Bool) × Text) :=
  let basic := quote == '"'
  match t.drop 1 with
  | c :: d :: rest =>
    if c = quote && d = quote then
      let body := if rest.head? = some '\n' then rest.drop 1 else rest
      (readLong quote basic (body.length + 1) body).map fun (s, r) => ((s, true), r)
    else (readShort quote basic (rest.length + 3) (c :: d :: rest)).map fun (s, r) => ((s, false), r)
  | short => (readShort quote basic (short.length + 1) short).map fun (s, r) => ((s, false), r)

end Linewise.Toml
