/-
Values, among them the two kinds that hold values: lists and inline tables.

Both may go on over several lines, with comments, and may end with a comma; they nest at most `maxNesting` deep. An item
of a list that cannot go on at a closing bracket is given up, and the bracket closes the list.
-/
import Linewise.Toml.Body
import Linewise.Toml.Scalar

namespace Linewise.Toml

/-- how deep lists and inline tables may be nested -/
def maxNesting : Nat := 100

/-- blanks, line ends and comments inside a list or an inline table; `inComment` if a comment has begun -/
def skipBetween : Bool → Text → Except Stop Text
  | _, [] => .ok []
  | true, c :: rest =>
    if c = '\n' then skipBetween false rest
    else if isControl c then stop (.controlCharacter c) (c :: rest)
    else skipBetween true rest
  | false, c :: rest =>
    if isFold c then skipBetween false rest
    else if c = '#' then skipBetween true rest
    else .ok (c :: rest)

/-- nothing but a closing bracket could stand where reading stopped -/
def Stop.isAtBracket (s : Stop) : Bool :=
  match s.cause, s.rest with
  | .unexpected _, ']' :: _ => true
  | _, _ => false

/-- put a value under the key of an inline table -/
def assignInline (keys : List Text) (v : Value) (body : Body) : Except Clash Body :=
  ((Node.leaf v).under true keys).foldlM (Body.tell deepest true) body

mutual

/-- a value that may hold others `levels` deep -/
def readValue : Nat → Nat → Text → Except Stop (Value × Text)
  | 0, _, t => stopAt t
  | _ + 1, _, [] => stop .unexpectedEnd []
  | fuel + 1, levels, c :: rest =>
    if c = '"' || c = '\'' then (readString c (c :: rest)).map fun ((s, _), r) => (.text s, r)
    else if c = 't' then readWord "true" (.bool true) (c :: rest)
    else if c = 'f' then readWord "false" (.bool false) (c :: rest)
    else if c = '[' || c = '\x7b' then
      match levels with
      | 0 => stop .tooDeep rest
      | levels + 1 => if c = '[' then readItems fuel levels false [] rest else readInline fuel levels true [] rest
    else if c = '+' || c = '-' then readSignedValue (c :: rest)
    else
      let word := (c :: rest).takeWhile fun d => !endsNumber d
      if word = "inf".toList || word = "nan".toList then readSignedValue (c :: rest)
      else if c.isDigit then readDigitValue (c :: rest)
      else stop (.unexpected c) (c :: rest)

/-- the items of a list after those read so far (last one first); `full` if the last thing read was an item -/
def readItems : Nat → Nat → Bool → List Value → Text → Except Stop (Value × Text)
  | 0, _, _, _, t => stopAt t
  | fuel + 1, levels, full, items, t => do
    match ← skipBetween false t with
    | [] => stop .unexpectedEnd []
    | ']' :: rest => return (.list items.reverse, rest)
    | ',' :: rest => if full then readItems fuel levels false items rest else stop (.unexpected ',') (',' :: rest)
    | c :: rest =>
      if full then stop (.unexpected c) (c :: rest)
      else
        match readValue fuel levels (c :: rest) with
        | .ok (v, rest) => readItems fuel levels true (v :: items) rest
        | .error s => if s.isAtBracket then return (.list items.reverse, s.rest.drop 1) else throw s

/-- the entries of an inline table after those read so far; `fresh` if an entry may follow -/
def readInline : Nat → Nat → Bool → Body → Text → Except Stop (Value × Text)
  | 0, _, _, _, t => stopAt t
  | fuel + 1, levels, fresh, body, t => do
    match ← skipBetween false t with
    | [] => stop .unexpectedEnd []
    | c :: rest =>
      if c = '\x7d' then return (.table (← refuse rest (body.gather deepest)), rest)
      else if !fresh || c = ',' then stop (.unexpected c) (c :: rest)
      else
        let (keys, rest) ← readKey (c :: rest)
        match rest with
        | '=' :: rest =>
          let (v, rest) ← readValue fuel levels (skipSpaces rest)
          let body ← refuse rest (assignInline keys v body)
          match ← skipBetween false rest with
          | ',' :: rest => readInline fuel levels true body rest
          | rest => readInline fuel levels false body rest
        | rest => stopAt rest

end

/-- a value at the start of a text -/
def readWhole (t : Text) : Except Stop (Value × Text) := readValue (3 * t.length + 3) maxNesting t

end Linewise.Toml
