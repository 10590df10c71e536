/-
The start of a parenthesis: inline flags, group names, and what kind of group it opens.

`readOpening` tells the kinds apart. What has no body of its own (a comment, flags for the whole pattern, a
back-reference by name) is read to its end here.
-/
import Linewise.Number.Integer
import Linewise.Pattern.Escape
import Linewise.Text.Identifier

namespace Linewise.Pattern

/-- a letter that can stand among inline flags -/
def isFlag (c : Char) : Bool := "iLmsxatu".toList.contains c

/-- the token is one of the flag letters -/
def flag? : Token → Option Char
  | .plain c => if isFlag c then some c else none
  | .escape _ => none

/-- the token is a letter of some script -/
def Token.isLetter : Token → Bool
  | .plain c => Linewise.isLetter c
  | .escape _ => false

/-- turn the flags on -/
def Modes.with (m : Modes) (flags : Text) : Modes :=
  { ignoreCase := m.ignoreCase || flags.contains 'i'
    multiline := m.multiline || flags.contains 'm'
    dotAll := m.dotAll || flags.contains 's'
    verbose := m.verbose || flags.contains 'x'
    asciiOnly := (m.asciiOnly || flags.contains 'a') && !flags.contains 'u' }

/-- turn the flags off -/
def Modes.without (m : Modes) (flags : Text) : Modes :=
  { ignoreCase := m.ignoreCase && !flags.contains 'i'
    multiline := m.multiline && !flags.contains 'm'
    dotAll := m.dotAll && !flags.contains 's'
    verbose := m.verbose && !flags.contains 'x'
    asciiOnly := m.asciiOnly }

/-- flags to turn on, from the letter `c` on, and the character that ends them -/
def readFlagsOn : Nat → Char → Text → ReadM (Text × Char)
  | 0, _, _ => failBack (.missing "-, : or )") 0
  | fuel + 1, c, on => do
    if c = 'L' then failBack (.badFlags "cannot use 'L' flag with a str pattern") 0
    let on := on ++ [c]
    if on.contains 'a' && on.contains 'u' then
      failBack (.badFlags "flags 'a', 'u' and 'L' are incompatible") 0
    match ← take with
    | none => failBack (.missing "-, : or )") 0
    | some t =>
      if t = .plain ')' then return (on, ')')
      if t = .plain '-' then return (on, '-')
      if t = .plain ':' then return (on, ':')
      match flag? t with
      | some d => readFlagsOn fuel d on
      | none => failBack (if t.isLetter then .unknownFlag else .missing "-, : or )") t.length

/-- flags to turn off, up to the colon -/
def readFlagsOff : Nat → Text → ReadM Text
  | 0, _ => failBack (.missing ":") 0
  | fuel + 1, off => do
    match ← take with
    | none => failBack (.missing (if off.isEmpty then "flag" else ":")) 0
    | some t =>
      if t = .plain ':' && !off.isEmpty then return off
      match flag? t with
      | some d =>
        if d = 'a' || d = 'u' || d = 'L' then
          failBack (.badFlags "cannot turn off flags 'a', 'u' and 'L'") 0
        readFlagsOff fuel (off ++ [d])
      | none =>
        failBack (if t.isLetter then .unknownFlag else .missing (if off.isEmpty then "flag" else ":")) t.length

/-- inline flags from their first character on: the modes of a group, or none if they are meant for the whole pattern -/
def readFlags (first : Char) : ReadM (Option Modes) := do
  let r ← get
  let fuel := r.rest.length + 1
  let (on, stop) ← if first = '-' then pure ([], '-') else readFlagsOn fuel first []
  if stop = ')' then
    modify fun s => { s with modes := s.modes.with on, flags := s.flags ++ on }
    return none
  if on.contains 't' then failBack (.badFlags "cannot turn on global flag") 1
  let off ← if stop = '-' then readFlagsOff fuel [] else pure []
  if off.contains 't' then failBack (.badFlags "cannot turn off global flag") 1
  if on.any off.contains then failBack (.badFlags "flag turned on and off") 1
  return some ((r.modes.with on).without off)

/-- a group name just read, with its closing character -/
def checkGroupName (name : Text) : ReadM Unit := do
  if !isIdentifier name then failBack (.badGroupName name) (name.length + 1)

/-- open a group -/
def openGroup (name : Option Text) : ReadM Nat := do
  let r ← get
  let index := r.groups.length + 1
  match name with
  | none => set { r with groups := r.groups ++ [none] }
  | some n =>
    match r.names.lookup n with
    | some former => failBack (.groupRedefined n index former) (n.length + 1)
    | none => set { r with groups := r.groups ++ [none], names := (n, index) :: r.names }
  return index

/-- close a group -/
def closeGroup (index : Nat) (w : Measure) : ReadM Unit :=
  modify fun r => { r with groups := r.groups.set (index - 1) (some w.again) }

/-- the closing parenthesis of what began at `start` -/
def expectClose (start : Nat) : ReadM Unit := do
  if !(← takeIf ')') then failAt .unterminatedGroup start

/-- a back-reference by name, after its introducer -/
def readNamedReference : ReadM Item := do
  let name ← readName ')' "group name"
  checkGroupName name
  match (← get).names.lookup name with
  | none => failBack (.unknownGroupName name) (name.length + 1)
  | some index => backReferencePart index (name.length + 1)

/-- a pattern has fewer groups than this -/
def groupLimit : Nat := 1073741823

/-- the group that a conditional asks for -/
def readCondition : ReadM Nat := do
  let name ← readName ')' "group name"
  if isIdentifier name then
    match (← get).names.lookup name with
    | none => failBack (.unknownGroupName name) (name.length + 1)
    | some index =>
      checkOuterGroup index
      return index
  let index ← match Integer.read? name with
    | some (.ofNat index) => pure index
    | _ => failBack (.badGroupName name) (name.length + 1)
  if index = 0 then failBack .badGroupNumber (name.length + 1)
  if index ≥ groupLimit then failBack (.invalidGroup index) (name.length + 1)
  modify fun r => { r with conditions := r.conditions ++ [(index, r.offset - name.length - 1)] }
  checkOuterGroup index
  return index

/-- a comment, up to its closing parenthesis -/
def skipComment (start : Nat) : Nat → ReadM Unit
  | 0 => failAt .unterminatedComment start
  | fuel + 1 => do
    match ← take with
    | none => failAt .unterminatedComment start
    | some t => if t = .plain ')' then return else skipComment start fuel

/-- what the start of a parenthesis says it is -/
inductive Opening where
  | capturing (name : Option Text)
  | bare
  | atomic
  | scoped (modes : Modes)
  | look (behind negated : Bool)
  | conditional (index : Nat)
  /-- nothing is left to read: one part, or nothing at all -/
  | complete (item : Option Item)
deriving Inhabited

/-- the start of a parenthesis at `start`; flags for the whole pattern may stand only at its beginning -/
def readOpening (start : Nat) (atBeginning : Bool) : ReadM Opening := do
  if !(← takeIf '?') then return .capturing none
  match ← take with
  | none => failBack .unexpectedEnd 0
  | some (.escape c) => failBack (.unknownExtension ['?', '\\', c]) 3
  | some (.plain c) =>
    if c = 'P' then
      if ← takeIf '<' then
        let name ← readName '>' "group name"
        checkGroupName name
        return .capturing (some name)
      if ← takeIf '=' then return .complete (some (← readNamedReference))
      match ← take with
      | none => failBack .unexpectedEnd 0
      | some t => failBack (.unknownExtension ("?P" ++ t.text)) (t.length + 2)
    else if c = ':' then return .bare
    else if c = '#' then
      skipComment start ((← get).rest.length + 1)
      return .complete none
    else if c = '=' then return .look false false
    else if c = '!' then return .look false true
    else if c = '<' then
      match ← take with
      | none => failBack .unexpectedEnd 0
      | some t =>
        if t = .plain '=' then return .look true false
        else if t = .plain '!' then return .look true true
        else failBack (.unknownExtension ("?<" ++ t.text)) (t.length + 2)
    else if c = '(' then return .conditional (← readCondition)
    else if c = '>' then return .atomic
    else if isFlag c || c = '-' then
      match ← readFlags c with
      | some modes => return .scoped modes
      | none =>
        if !atBeginning then failAt .lateGlobalFlags start
        return .complete none
    else failBack (.unknownExtension ['?', c]) 2

end Linewise.Pattern
