/-
Reading the text of a pattern.

`Pattern.read` turns the written form (literals, classes, groups, quantifiers, looks, back-references, inline flags) into
a `Pattern`, or says what is wrong with it and where. Reading is by recursive descent: at most three steps in a row take
no token, so three times the number of tokens bounds the depth.
-/
import Linewise.Pattern.Opening

namespace Linewise.Pattern

/-- at most how many repetitions can be written -/
def repetitionLimit : Nat := 4294967295

/-- the number that the digits of a bound write -/
def readBound (digits : Text) : ReadM Nat := do
  if maxDigits < digits.length then failWhole (.repetitionTooLong digits.length)
  let n := numberIn 10 digits
  if n ≥ repetitionLimit then failWhole .repetitionTooLarge
  return n

/-- the bounds of a quantifier in braces, after the opening brace; nothing is taken if they are not written in full -/
def readBounds? : ReadM (Option (Nat × Option Nat)) := do
  let r ← get
  if (← peek) = some (.plain '\x7d') then return none
  let fuel := r.rest.length
  let low ← takeSome Char.isDigit fuel
  let comma ← takeIf ','
  let high ← if comma then takeSome Char.isDigit fuel else pure low
  if !(← takeIf '\x7d') then
    set r
    return none
  let least ← readBound low
  if high.isEmpty then return some (least, none)
  let most ← readBound high
  if most < least then failAt .leastAboveMost r.offset
  return some (least, some most)

/-- a repeated part; the repetition is the first thing that a template lacks -/
def repetition (isTemplate : Bool) (kind : Text) (p : Pattern) (w : Measure) : Item :=
  ⟨p, if isTemplate then { w with lack := some (.templateRepetition kind) } else w, .repetition⟩

/-- repeat the last part of a sequence (given last part first); `start` is the offset of the quantifier -/
def quantify (start : Nat) (least : Nat) (most : Option Nat) : List Item → ReadM (List Item)
  | [] => failAt .nothingToRepeat start
  | item :: before => do
    match item.kind with
    | .anchor => failAt .nothingToRepeat start
    | .repetition => failAt .multipleRepeat start
    | .other =>
      let w := item.measure.times least most
      let isTemplate := (← get).flags.contains 't'
      if ← takeIf '?' then
        return repetition isTemplate "MIN_REPEAT" (.many item.pattern least most .lazy) w :: before
      else if ← takeIf '+' then
        return repetition isTemplate "POSSESSIVE_REPEAT"
          (.atomic (.many (.atomic item.pattern) least most .greedy)) w :: before
      else return repetition isTemplate "MAX_REPEAT" (.many item.pattern least most .greedy) w :: before

/-- a sequence of parts, given last part first -/
def sequenceOf (items : List Item) : Pattern × Measure :=
  (ofList (items.reverse.map (·.pattern)), items.foldr (fun i w => w.add i.measure) .zero)

/-- at most how many characters a look-behind can go back -/
def behindLimit : Nat := 4294967295

/-- what a look-behind at a pattern lacks: it goes back a fixed number of characters -/
def Measure.lackBehind (w : Measure) : Option Cause :=
  if behindLimit < w.least then some .farLookBehind
  else if w.most ≠ w.least then some .looseLookBehind
  else w.lack

/-- a comment of a verbose pattern, up to the end of the line -/
def skipLine : Nat → ReadM Unit
  | 0 => return
  | fuel + 1 => do
    match ← take with
    | none => return
    | some t => if t = .plain '\n' then return else skipLine fuel

/-- the characters that a verbose pattern may hold for layout -/
def verboseBlanks : List Char := [' ', '\t', '\n', '\r', '\x0b', '\x0c']

mutual

/-- alternatives, up to a closing parenthesis or the end -/
def readAlternatives : Nat → Bool → ReadM (Pattern × Measure)
  | 0, _ => return (.empty, .zero)
  | fuel + 1, atBeginning => do
    let (p, v) ← readSequence fuel atBeginning []
    if ← takeIf '|' then
      let (q, w) ← readAlternatives fuel false
      return (.alt p q, v.either w)
    return (p, v)

/-- a sequence after the parts read so far (last part first), up to a bar, a closing parenthesis or the end -/
def readSequence : Nat → Bool → List Item → ReadM (Pattern × Measure)
  | 0, _, items => return sequenceOf items
  | fuel + 1, atBeginning, items => do
    let start ← here
    let next ← peek
    if next = some (.plain '|') || next = some (.plain ')') then return sequenceOf items
    match ← take with
    | none => return sequenceOf items
    | some (.escape c) => readSequence fuel atBeginning ((← readEscape c) :: items)
    | some (.plain c) => readSequence fuel atBeginning (← readPart fuel start atBeginning c items)

/-- the part that the character `c` at `start` begins, in front of the parts read so far -/
def readPart : Nat → Nat → Bool → Char → List Item → ReadM (List Item)
  | 0, _, _, _, items => return items
  | fuel + 1, start, atBeginning, c, items => do
    let modes := (← get).modes
    if modes.verbose && verboseBlanks.contains c then return items
    else if modes.verbose && c = '#' then
      skipLine ((← get).rest.length + 1)
      return items
    else if c = '(' then
      match ← readOpening start (atBeginning && items.isEmpty) with
      | .complete none => return items
      | .complete (some item) => return item :: items
      | opening => return (← readGroup fuel start opening) :: items
    else if c = '[' then
      let negated ← takeIf '^'
      let members ← readItems start ((← get).rest.length + 1) []
      return (← setPart members.eraseDups negated) :: items
    else if c = '*' then quantify start 0 none items
    else if c = '+' then quantify start 1 none items
    else if c = '?' then quantify start 0 (some 1) items
    else if c = '\x7b' then
      match ← readBounds? with
      | some (least, most) => quantify start least most items
      | none => return (← codePart c.toNat) :: items
    else if c = '.' then return ⟨if modes.dotAll then .one .all .exact else any, .unit, .other⟩ :: items
    else if c = '^' then return anchorPart (if modes.multiline then .lineStart else .textStart) :: items
    else if c = '$' then return anchorPart (if modes.multiline then .lineEnd else .lastLineEnd) :: items
    else return (← codePart c.toNat) :: items

/-- what a parenthesis at `start` holds, and its end -/
def readGroup : Nat → Nat → Opening → ReadM Item
  | 0, start, _ => failAt .unterminatedGroup start
  | fuel + 1, start, opening => do
    match opening with
    | .complete item => return item.getD ⟨.empty, .zero, .other⟩
    | .capturing name =>
      let index ← openGroup name
      let (p, w) ← readAlternatives fuel false
      expectClose start
      closeGroup index w
      return ⟨.group index p, w, .other⟩
    | .bare =>
      let (p, w) ← readAlternatives fuel false
      expectClose start
      return ⟨p, w, .other⟩
    | .atomic =>
      let (p, w) ← readAlternatives fuel false
      expectClose start
      return ⟨.atomic p, w, .other⟩
    | .scoped inner =>
      let outer := (← get).modes
      modify fun r => { r with modes := inner }
      let (p, w) ← readAlternatives fuel false
      modify fun r => { r with modes := outer }
      expectClose start
      return ⟨p, w, .other⟩
    | .look false negated =>
      let (p, w) ← readAlternatives fuel false
      expectClose start
      return ⟨.ahead negated p, { Measure.zero with lack := w.lack }, .other⟩
    | .look true negated =>
      let outer := (← get).outerGroups
      let count ← groupCount
      modify fun r => { r with outerGroups := some (outer.getD count) }
      let (p, w) ← readAlternatives fuel false
      modify fun r => { r with outerGroups := outer }
      expectClose start
      return ⟨.behind w.least negated p, { Measure.zero with lack := w.lackBehind }, .other⟩
    | .conditional index =>
      let (p, v) ← readSequence fuel false []
      let (q, w) ← if ← takeIf '|' then readSequence fuel false [] else pure (.empty, .zero)
      if (← peek) = some (.plain '|') then failBack .tooManyBranches 0
      expectClose start
      return ⟨.ifGroup index p q, v.either w, .other⟩

end

/-- the whole pattern, and the checks that only its end allows -/
def readWhole : ReadM Pattern := do
  checkDangling
  let (p, w) ← readAlternatives (3 * (← get).rest.length + 3) true
  let flags := (← get).flags
  if flags.contains 'a' && flags.contains 'u' then failWhole .incompatibleFlags
  if !(← get).rest.isEmpty then failBack .unbalancedParenthesis 0
  let r ← get
  match r.conditions.find? fun (index, _) => index > r.groups.length with
  | some (index, offset) => failAt (.invalidGroup index) offset
  | none =>
    match w.lack with
    | some cause => failWhole cause
    | none => return p

/-- the pattern that a text writes, or what is wrong with the text -/
def read (t : Text) : Except Fault Pattern :=
  readWhole.run' { pattern := t, rest := (tokens t).1, dangling := (tokens t).2 }

end Linewise.Pattern
