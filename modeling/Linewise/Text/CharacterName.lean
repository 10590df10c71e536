/-
Characters by their names.

Most names stand in tables, one row for consecutive characters whose names begin alike, with the aliases of the standard
in a table of their own. The names of a few large groups are made of a code point, a number or the names of parts.
`CharacterName.code?` is the code point that a name stands for; capitals and small letters count the same in it, but for
the names of Hangul syllables and unified ideographs. Names of sequences of several characters are no names of one.
-/
import Linewise.Text.CharacterName.Alphabets
import Linewise.Text.CharacterName.AncientScripts
import Linewise.Text.CharacterName.EastAsia
import Linewise.Text.CharacterName.Pictographs
import Linewise.Text.CharacterName.Syllabaries
import Linewise.Text.CharacterName.Symbols
import Linewise.Text.Basic
import Linewise.Text.Digit

namespace Linewise.CharacterName

/-! ### Tables -/

/-- the names of consecutive characters -/
structure Row where
  /-- the first code point, if the row does not go on where the one before it ended -/
  first : Option Nat
  /-- what the names begin with: one beginning, or two that alternate -/
  stems : List Text
  /-- how the names end; an empty ending stands for a character without a name -/
  endings : List Text
deriving Inhabited

/-- the beginnings that are written as one; `CAPITAL/SMALL` in it stands for both, in turn -/
def stemsOf (t : Text) : List Text :=
  match t.splitOn '/' with
  | [capital, small] =>
    [capital ++ small.drop "SMALL".length, Text.dropEnd "CAPITAL".length capital ++ small]
  | _ => [t]

/-- a row as it is written: its first code point or nothing, what its names begin with, and how they end -/
def Row.ofText (t : Text) : Row :=
  match t.splitOn '|' with
  | [first, stem, endings] =>
    ⟨if first.isEmpty then none else some (numberIn 16 first), stemsOf stem, endings.splitOn ','⟩
  | _ => default

/-- how many code points the row is about -/
def Row.size (r : Row) : Nat := r.stems.length * r.endings.length

/-- which character of the row has the name -/
def Row.index? (r : Row) (name : Text) : Option Nat :=
  r.stems.zipIdx.findSome? fun (stem, i) =>
    match name.drop stem.length with
    | [] => none
    | ending =>
      if name.startsWith stem then (r.endings.idxOf? ending).map fun j => r.stems.length * j + i else none

/-- the code point that the rows give to the name; `next` is where the row before them ended -/
def codeIn? (name : Text) : Nat → List String → Option Nat
  | _, [] => none
  | next, t :: rest =>
    let r := Row.ofText t
    let first := r.first.getD next
    match r.index? name with
    | some i => some (first + i)
    | none => codeIn? name (first + r.size) rest

/-- other names of characters -/
def aliases : List String := [
  "0||NULL,START OF HEADING,START OF TEXT,END OF TEXT,END OF TRANSMISSION,ENQUIRY,ACKNOWLEDGE,ALERT,BACKSPACE",
  "9||CHARACTER TABULATION,LINE FEED,LINE TABULATION,FORM FEED,CARRIAGE RETURN,SHIFT OUT,SHIFT IN,DATA LINK ESCAPE",
  "11||DEVICE CONTROL ONE,DEVICE CONTROL TWO,DEVICE CONTROL THREE,DEVICE CONTROL FOUR,NEGATIVE ACKNOWLEDGE",
  "16||SYNCHRONOUS IDLE,END OF TRANSMISSION BLOCK,CANCEL,END OF MEDIUM,SUBSTITUTE,ESCAPE,INFORMATION SEPARATOR FOUR",
  "1D||INFORMATION SEPARATOR THREE,INFORMATION SEPARATOR TWO,INFORMATION SEPARATOR ONE,SP",
  "7F||DELETE,PADDING CHARACTER,HIGH OCTET PRESET,BREAK PERMITTED HERE,NO BREAK HERE,INDEX,NEXT LINE",
  "86||START OF SELECTED AREA,END OF SELECTED AREA,CHARACTER TABULATION SET,CHARACTER TABULATION WITH JUSTIFICATION",
  "8A||LINE TABULATION SET,PARTIAL LINE FORWARD,PARTIAL LINE BACKWARD,REVERSE LINE FEED,SINGLE SHIFT TWO",
  "8F||SINGLE SHIFT THREE,DEVICE CONTROL STRING,PRIVATE USE ONE,PRIVATE USE TWO,SET TRANSMIT STATE,CANCEL CHARACTER",
  "95||MESSAGE WAITING,START OF GUARDED AREA,END OF GUARDED AREA,START OF STRING,SINGLE GRAPHIC CHARACTER INTRODUCER",
  "9A||SINGLE CHARACTER INTRODUCER,CONTROL SEQUENCE INTRODUCER,STRING TERMINATOR,OPERATING SYSTEM COMMAND",
  "9E||PRIVACY MESSAGE,APPLICATION PROGRAM COMMAND,NBSP",
  "AD||SHY",
  "1A2||LATIN CAPITAL LETTER GHA,LATIN SMALL LETTER GHA",
  "34F||CGJ",
  "61C||ALM",
  "709||SYRIAC SUBLINEAR COLON SKEWED LEFT",
  "CDE||KANNADA LETTER LLLA",
  "E9D||LAO LETTER FO FON,,LAO LETTER FO FAY",
  "EA3||LAO LETTER RO,,LAO LETTER LO",
  "FD0||TIBETAN MARK BKA- SHOG GI MGO RGYAN",
  "11EC||HANGUL JONGSEONG YESIEUNG-KIYEOK,HANGUL JONGSEONG YESIEUNG-SSANGKIYEOK,HANGUL JONGSEONG SSANGYESIEUNG",
  "11EF||HANGUL JONGSEONG YESIEUNG-KHIEUKH",
  "180B||FVS1,FVS2,FVS3,MVS,FVS4",
  "200B||ZWSP,ZWNJ,ZWJ,LRM,RLM",
  "202A||LRE,RLE,PDF,LRO,RLO,NNBSP",
  "205F||MMSP,WJ",
  "2066||LRI,RLI,FSI,PDI",
  "2118||WEIERSTRASS ELLIPTIC FUNCTION",
  "2448||MICR ON US SYMBOL,MICR DASH SYMBOL",
  "2B7A||LEFTWARDS TRIANGLE-HEADED ARROW WITH DOUBLE VERTICAL STROKE",
  "2B7C||RIGHTWARDS TRIANGLE-HEADED ARROW WITH DOUBLE VERTICAL STROKE",
  "A015||YI SYLLABLE ITERATION MARK",
  "AA6E||MYANMAR LETTER KHAMTI LLA",
  "FE18||PRESENTATION FORM FOR VERTICAL RIGHT WHITE LENTICULAR BRACKET",
  "FEFF||BYTE ORDER MARK",
  "122D4||CUNEIFORM SIGN NU11 TENU,CUNEIFORM SIGN NU11 OVER NU11 BUR OVER BUR",
  "16E56||MEDEFAIDRIN CAPITAL LETTER H,MEDEFAIDRIN CAPITAL LETTER NG",
  "16E76||MEDEFAIDRIN SMALL LETTER H,MEDEFAIDRIN SMALL LETTER NG",
  "1B001||HENTAIGANA LETTER E-1",
  "1D0C5||BYZANTINE MUSICAL SYMBOL FTHORA SKLIRON CHROMA VASIS",
  "0||NUL,SOH,STX,ETX,EOT,ENQ,ACK,BEL,BS,HORIZONTAL TABULATION,NEW LINE,VERTICAL TABULATION,FF,CR,LOCKING-SHIFT ONE",
  "F||LOCKING-SHIFT ZERO,DLE,DC1,DC2,DC3,DC4,NAK,SYN,ETB,CAN,EOM,SUB,ESC,FILE SEPARATOR,GROUP SEPARATOR",
  "1E||RECORD SEPARATOR,UNIT SEPARATOR",
  "7F||DEL,PAD,HOP,BPH,NBH,IND,NEL,SSA,ESA,HORIZONTAL TABULATION SET,HORIZONTAL TABULATION WITH JUSTIFICATION",
  "8A||VERTICAL TABULATION SET,PARTIAL LINE DOWN,PARTIAL LINE UP,REVERSE INDEX,SINGLE-SHIFT-2,SINGLE-SHIFT-3,DCS",
  "91||PRIVATE USE-1,PRIVATE USE-2,STS,CCH,MW,START OF PROTECTED AREA,END OF PROTECTED AREA,SOS,SGC,SCI,CSI,ST,OSC",
  "9E||PM,APC",
  "FEFF||BOM",
  "9||HT,END OF LINE,VT,,,SO,SI",
  "1C||FS,GS,RS,US",
  "88||HTS,HTJ,VTS,PLD,PLU,RI,SS2,SS3,,PU1,PU2",
  "96||SPA,EPA",
  "FEFF||ZWNBSP",
  "9||TAB,LF",
  "A||NL",
  "A||EOL"]

/-- the tables -/
def tables : List (List String) :=
  [alphabetNames, syllabaryNames, symbolNames, eastAsianNames, ancientNames, pictographNames, aliases]

/-! ### Names that are made of something -/

/-- names that end in a number -/
structure Numbered where
  stem : Text
  /-- the base of the digits, and the least number of them -/
  base : Nat
  width : Nat
  low : Nat
  high : Nat
  /-- the code point of the lowest number -/
  first : Nat

/-- the groups of characters that are told apart by a number, or by their code point -/
def numbered : List Numbered := [
  ⟨"CJK COMPATIBILITY IDEOGRAPH-", 16, 4, 0xf900, 0xfa6d, 0xf900⟩,
  ⟨"CJK COMPATIBILITY IDEOGRAPH-", 16, 4, 0xfa70, 0xfad9, 0xfa70⟩,
  ⟨"CJK COMPATIBILITY IDEOGRAPH-", 16, 4, 0x2f800, 0x2fa1d, 0x2f800⟩,
  ⟨"KHITAN SMALL SCRIPT CHARACTER-", 16, 4, 0x18b00, 0x18cd5, 0x18b00⟩,
  ⟨"NUSHU CHARACTER-", 16, 4, 0x1b170, 0x1b2fb, 0x1b170⟩,
  ⟨"TANGUT COMPONENT-", 10, 3, 1, 768, 0x18800⟩,
  ⟨"VARIATION SELECTOR-", 10, 1, 1, 16, 0xfe00⟩,
  ⟨"VARIATION SELECTOR-", 10, 1, 17, 256, 0xe0100⟩,
  ⟨"VS", 10, 1, 1, 16, 0xfe00⟩,
  ⟨"VS", 10, 1, 17, 256, 0xe0100⟩]

/-- the code point of a numbered name; the number is written without more zeros than its width asks for -/
def Numbered.code? (g : Numbered) (name : Text) : Option Nat :=
  let digits := name.drop g.stem.length
  let n := numberIn g.base digits
  if name.startsWith g.stem && digits.all (fun c => isHex c && hexValue c < g.base) && g.low ≤ n && n ≤ g.high &&
      digits.length = max g.width (Nat.toDigits g.base n).length then
    some (g.first + (n - g.low))
  else none

/-- the code point of a Braille pattern by the numbers of its dots, in ascending order -/
def braille? (name : Text) : Option Nat :=
  let stem : Text := "BRAILLE PATTERN DOTS-"
  let dots := name.drop stem.length
  if name = "BRAILLE PATTERN BLANK".toList then some 0x2800
  else if name.startsWith stem && !dots.isEmpty && dots.all (fun c => '1' ≤ c && c ≤ '8') &&
      dots.Pairwise (· < ·) then
    some (dots.foldl (fun point c => point + 1 <<< (hexValue c - 1)) 0x2800)
  else none

/-- the parts of Hangul syllables: first consonants, vowels, last consonants -/
def syllableParts : List (List String) := [
  ["G", "GG", "N", "D", "DD", "R", "M", "B", "BB", "S", "SS", "", "J", "JJ", "C", "K", "T", "P", "H"],
  ["A", "AE", "YA", "YAE", "EO", "E", "YEO", "YE", "O", "WA", "WAE", "OE", "YO", "U", "WEO", "WE", "WI", "YU", "EU",
    "YI", "I"],
  ["", "G", "GG", "GS", "N", "NJ", "NH", "D", "L", "LG", "LM", "LB", "LS", "LT", "LP", "LH", "M", "B", "BS", "S", "SS",
    "NG", "J", "C", "K", "T", "P", "H"]]

/-- the place of the longest part that the text begins with, and what follows it -/
def longestPart? (parts : List String) (t : Text) : Option (Nat × Text) :=
  let fitting := parts.zipIdx.filter fun (part, _) => t.startsWith part
  (fitting.find? fun (part, _) => fitting.all fun (other, _) => other.length ≤ part.length).map fun (part, i) =>
    (i, t.drop part.length)

/-- the number of a syllable among all that have the parts -/
def syllable? : List (List String) → Nat → Text → Option Nat
  | [], n, t => if t.isEmpty then some n else none
  | parts :: rest, n, t => (longestPart? parts t).bind fun (i, left) => syllable? rest (n * parts.length + i) left

/-- the unified ideographs, by their bounds -/
def ideographBounds : List Nat := [
  0x3400, 0x4dc0, 0x4e00, 0xa000, 0x20000, 0x2a6e0, 0x2a700, 0x2b739, 0x2b740, 0x2b81e, 0x2b820, 0x2cea2, 0x2ceb0, 0x2ebe1,
  0x30000, 0x3134b]

/-- the code point of a unified ideograph, in four or five digits -/
def ideograph? (digits : Text) : Option Nat :=
  let n := numberIn 16 digits
  if (digits.length = 4 || digits.length = 5) && digits.all (fun c => isHex c && !c.isLower) &&
      inBounds ideographBounds n then
    some n
  else none

/-- the code point that a name stands for -/
def code? (name : Text) : Option Nat :=
  let syllable : Text := "HANGUL SYLLABLE "
  let ideograph : Text := "CJK UNIFIED IDEOGRAPH-"
  if name.startsWith syllable then
    (syllable? syllableParts 0 (name.drop syllable.length)).map (0xac00 + ·)
  else if name.startsWith ideograph then ideograph? (name.drop ideograph.length)
  else
    let name := name.map Char.toUpper
    ((numbered.findSome? (·.code? name)).or (braille? name)).or (tables.findSome? (codeIn? name 0))

end Linewise.CharacterName
