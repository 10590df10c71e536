/-
The state of reading a pattern, and the steps all of reading is made of.

The text is cut into tokens first, a backslash with the character after it being one token. A step takes tokens from
the front or fails at an offset; `take` and `takeIf` are the only steps that move the offset, except for quantifier
bounds, which are put back when they are not written in full.
-/
import Linewise.Pattern.Basic
import Linewise.Pattern.Fault

namespace Linewise.Pattern

/-- a unit of the written form -/
inductive Token where
  | plain (c : Char)
  | escape (c : Char)
deriving DecidableEq, Repr, Inhabited

namespace Token

/-- the token as written -/
def text : Token → Text
  | .plain c => [c]
  | .escape c => ['\\', c]

/-- how many characters the token is written with -/
def length (t : Token) : Nat := t.text.length

end Token

/-- the tokens of a text, and whether a lone backslash is left at the end -/
def tokens : Text → List Token × Bool
  | [] => ([], false)
  | ['\\'] => ([], true)
  | '\\' :: c :: rest => (.escape c :: (tokens rest).1, (tokens rest).2)
  | c :: rest => (.plain c :: (tokens rest).1, (tokens rest).2)

/-- how the characters of a pattern are meant -/
structure Modes where
  ignoreCase : Bool := false
  multiline : Bool := false
  dotAll : Bool := false
  verbose : Bool := false
  asciiOnly : Bool := false
deriving DecidableEq, Repr, Inhabited

/-- how the case of letters counts -/
def Modes.fold (m : Modes) : Fold := if m.ignoreCase then if m.asciiOnly then .ascii else .unicode else .exact

/-- what is known of a pattern while it is read -/
structure Measure where
  /-- the least and the greatest number of characters that it can match -/
  least : Nat
  most : Nat
  /-- the first thing in it that cannot be had, though it is well written -/
  lack : Option Cause := none
deriving DecidableEq, Repr, Inhabited

namespace Measure

/-- a number of characters that stands for itself and all above -/
def limit : Nat := 1 <<< 64

/-- a pattern that consumes nothing -/
def zero : Measure := ⟨0, 0, none⟩

/-- one character -/
def unit : Measure := ⟨1, 1, none⟩

/-- one pattern after another -/
def add (v w : Measure) : Measure :=
  ⟨min (v.least + w.least) limit, min (v.most + w.most) limit, v.lack.or w.lack⟩

/-- one pattern or another -/
def either (v w : Measure) : Measure := ⟨min v.least w.least, max v.most w.most, v.lack.or w.lack⟩

/-- a pattern again and again -/
def times (w : Measure) (least : Nat) (most : Option Nat) : Measure where
  least := min (w.least * least) limit
  most := match most with
    | some most => min (w.most * most) limit
    | none => if w.most = 0 then 0 else limit
  lack := w.lack

/-- what a group matched, once more -/
def again (w : Measure) : Measure := { w with lack := none }

end Measure

/-- the state of reading -/
structure Reading where
  /-- the whole pattern, for reports -/
  pattern : Text
  rest : List Token
  dangling : Bool
  /-- how many characters have been read -/
  offset : Nat := 0
  modes : Modes := {}
  /-- the measure of each group so far, none for one that is still open -/
  groups : List (Option Measure) := []
  names : List (Text × Nat) := []
  /-- inside a look-behind: how many groups there were when it began -/
  outerGroups : Option Nat := none
  /-- the groups that conditionals ask for, and where -/
  conditions : List (Nat × Nat) := []
  /-- the flags for the whole pattern -/
  flags : Text := []
deriving Repr, Inhabited

/-- a reading step -/
abbrev ReadM := StateT Reading (Except Fault)

/-- fail, `back` characters before the current offset -/
def failBack {α : Type} (cause : Cause) (back : Nat) : ReadM α := fun r =>
  .error ⟨cause, r.pattern, some (r.offset - back)⟩

/-- fail at an offset -/
def failAt {α : Type} (cause : Cause) (offset : Nat) : ReadM α := fun r => .error ⟨cause, r.pattern, some offset⟩

/-- fail at no offset -/
def failWhole {α : Type} (cause : Cause) : ReadM α := fun r => .error ⟨cause, r.pattern, none⟩

/-- the next token, left where it is -/
def peek : ReadM (Option Token) := do return (← get).rest.head?

/-- the current offset -/
def here : ReadM Nat := do return (← get).offset

/-- a lone backslash that comes next is reported as soon as it is seen -/
def checkDangling : ReadM Unit := do
  let r ← get
  if r.rest.isEmpty && r.dangling then failAt .danglingBackslash r.offset

/-- take the next token, if there is one -/
def take : ReadM (Option Token) := do
  let r ← get
  match r.rest with
  | [] => return none
  | t :: rest =>
    set { r with rest := rest, offset := r.offset + t.length }
    checkDangling
    return some t

/-- take the next token if it is this character -/
def takeIf (c : Char) : ReadM Bool := do
  if (← peek) = some (.plain c) then
    let _ ← take
    return true
  return false

/-- take at most `n` characters in `p` -/
def takeSome (p : Char → Bool) : Nat → ReadM Text
  | 0 => return []
  | n + 1 => do
    match ← peek with
    | some (.plain c) =>
      if p c then
        let _ ← take
        return c :: (← takeSome p n)
      else return []
    | _ => return []

/-- take a name up to its closing character -/
def takeName (closer : Char) (what : Text) : Nat → Text → ReadM Text
  | 0, _ => failBack (.missing what) 0
  | fuel + 1, name => do
    match ← take with
    | none =>
      if name.isEmpty then failBack (.missing what) 0
      else failBack (.unterminatedName closer) name.length
    | some t =>
      if t = .plain closer then
        if name.isEmpty then failBack (.missing what) 1 else return name
      else takeName closer what fuel (name ++ t.text)

/-- take a name up to its closing character -/
def readName (closer : Char) (what : Text) : ReadM Text := do
  takeName closer what ((← get).rest.length + 1) []

end Linewise.Pattern
