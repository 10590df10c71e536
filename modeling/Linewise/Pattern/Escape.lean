/-
Escapes and sets: what a backslash means with the character after it, inside brackets and outside.

`readSetEscape` and `readEscape` share the escapes for characters by number; they differ in the backspace, the anchors,
and in what a digit begins (an octal number inside a set, perhaps a back-reference outside). `readItems` reads a set.
-/
import Linewise.Pattern.Reading
import Linewise.Text.CharacterName

namespace Linewise.Pattern

/-- what one escape or literal stands for inside a set -/
inductive Atom where
  | code (n : Nat)
  | category (kind : Category) (negated : Bool)
deriving DecidableEq, Repr, Inhabited

/-- escapes for control characters, the same inside and outside sets -/
def controlEscape? : Char → Option Nat
  | 'a' => some 7
  | 'f' => some 12
  | 'n' => some 10
  | 'r' => some 13
  | 't' => some 9
  | 'v' => some 11
  | '\\' => some 92
  | _ => none

/-- escapes for categories -/
def categoryEscape? : Char → Option (Category × Bool)
  | 'd' => some (.digit, false)
  | 'D' => some (.digit, true)
  | 's' => some (.blank, false)
  | 'S' => some (.blank, true)
  | 'w' => some (.word, false)
  | 'W' => some (.word, true)
  | _ => none

/-- an escape of exactly `n` hexadecimal digits -/
def readHexEscape (letter : Char) (n : Nat) : ReadM Nat := do
  let digits ← takeSome isHex n
  let escape := '\\' :: letter :: digits
  if digits.length ≠ n then failBack (.incompleteEscape escape) escape.length
  let code := numberIn 16 digits
  if code ≥ 0x110000 then failBack (.badEscape escape) escape.length
  return code

/-- a character by its name -/
def readNamedEscape : ReadM Nat := do
  if !(← takeIf '\x7b') then failBack (.missing ['\x7b']) 0
  let name ← readName '\x7d' "character name"
  match CharacterName.code? name with
  | some n => return n
  | none => failBack (.undefinedCharacterName name) (name.length + 4)

/-- the escapes by number or name that sets and sequences share -/
def readCodeEscape? (c : Char) : ReadM (Option Nat) := do
  match controlEscape? c with
  | some n => return some n
  | none =>
    if c = 'x' then return some (← readHexEscape c 2)
    else if c = 'u' then return some (← readHexEscape c 4)
    else if c = 'U' then return some (← readHexEscape c 8)
    else if c = 'N' then return some (← readNamedEscape)
    else return none

/-- an escape inside a set -/
def readSetEscape (c : Char) : ReadM Atom := do
  if c = 'b' then return .code 8
  match categoryEscape? c with
  | some (kind, negated) => return .category kind negated
  | none =>
    match ← readCodeEscape? c with
    | some n => return .code n
    | none =>
      if isOctal c then
        let digits := c :: (← takeSome isOctal 2)
        if numberIn 8 digits > 0o377 then failBack (.octalTooLarge ('\\' :: digits)) (digits.length + 1)
        return .code (numberIn 8 digits)
      else if c.isDigit || c.isAlpha then failBack (.badEscape ['\\', c]) 2
      else return .code c.toNat

/-- one member of a set, or a character outside one, as an item -/
def Atom.item (asciiOnly : Bool) : Atom → SetItem
  | .code n => if (Char.ofNat n).toNat = n then .single (Char.ofNat n) else .span n n
  | .category kind negated => .category kind negated asciiOnly

/-- what one token stands for inside a set -/
def readAtom : Token → ReadM Atom
  | .plain c => return .code c.toNat
  | .escape c => readSetEscape c

/-- the members of a set, after its opening bracket at `start` and a possible negation -/
def readItems (start : Nat) : Nat → List SetItem → ReadM (List SetItem)
  | 0, _ => failAt .unterminatedSet start
  | fuel + 1, items => do
    let asciiOnly := (← get).modes.asciiOnly
    match ← take with
    | none => failAt .unterminatedSet start
    | some this =>
      if this = .plain ']' && !items.isEmpty then return items
      let low ← readAtom this
      if !(← takeIf '-') then readItems start fuel (items ++ [low.item asciiOnly])
      else
        match ← take with
        | none => failAt .unterminatedSet start
        | some that =>
          if that = .plain ']' then return items ++ [low.item asciiOnly, .single '-']
          let high ← readAtom that
          match low, high with
          | .code a, .code b =>
            if b < a then failBack (.badRange this.text that.text) (this.length + 1 + that.length)
            readItems start fuel (items ++ [.span a b])
          | _, _ => failBack (.badRange this.text that.text) (this.length + 1 + that.length)

/-- what the last thing read is, for a quantifier that follows -/
inductive ItemKind where
  | anchor
  | repetition
  | other
deriving DecidableEq, Repr, Inhabited

/-- a part of a sequence -/
structure Item where
  pattern : Pattern
  measure : Measure
  kind : ItemKind := .other
deriving Repr, Inhabited

/-- one character of a set -/
def setPart (items : List SetItem) (negated : Bool) : ReadM Item := do
  return ⟨.one ⟨items, negated⟩ (← get).modes.fold, .unit, .other⟩

/-- one character by its code point -/
def codePart (n : Nat) : ReadM Item := setPart [Atom.item false (.code n)] false

def anchorPart (a : Anchor) : Item := ⟨.anchor a, .zero, .anchor⟩

/-- how many groups there are, the whole match counted as one -/
def groupCount : ReadM Nat := do return (← get).groups.length + 1

/-- the group is there and closed -/
def groupClosed (index : Nat) : ReadM Bool := do
  if index = 0 then return false
  return ((← get).groups[index - 1]?.join).isSome

/-- a look-behind cannot refer to groups that it opens itself -/
def checkOuterGroup (index : Nat) : ReadM Unit := do
  match (← get).outerGroups with
  | none => return
  | some outer =>
    if !(← groupClosed index) then failBack .openGroup 0
    if index ≥ outer then failBack .groupOfSameLook 0

/-- a back-reference; a reference to an open group fails `back` characters before here -/
def backReferencePart (index back : Nat) : ReadM Item := do
  if !(← groupClosed index) then failBack .openGroup back
  checkOuterGroup index
  let r ← get
  return ⟨.backReference index r.modes.fold, (r.groups[index - 1]?.join).getD .zero, .other⟩

/-- an escape that begins with a digit other than zero: a back-reference, or three octal digits -/
def readNumberEscape (c : Char) : ReadM Item := do
  let more ← takeSome Char.isDigit 1
  let digits := c :: more
  if digits.length = 2 && digits.all isOctal then
    let third ← takeSome isOctal 1
    if !third.isEmpty then
      let escape := '\\' :: digits ++ third
      if numberIn 8 (digits ++ third) > 0o377 then failBack (.octalTooLarge escape) escape.length
      return ← codePart (numberIn 8 (digits ++ third))
  let index := numberIn 10 digits
  if index < (← groupCount) then backReferencePart index (digits.length + 1)
  else failBack (.invalidGroup index) digits.length

/-- an escape outside sets -/
def readEscape (c : Char) : ReadM Item := do
  let asciiOnly := (← get).modes.asciiOnly
  match categoryEscape? c with
  | some (kind, negated) => setPart [.category kind negated asciiOnly] false
  | none =>
    if c = 'A' then return anchorPart .textStart
    else if c = 'Z' then return anchorPart .textEnd
    else if c = 'b' then return anchorPart (.wordBoundary asciiOnly)
    else if c = 'B' then return anchorPart (.noWordBoundary asciiOnly)
    else
      match ← readCodeEscape? c with
      | some n => codePart n
      | none =>
        if c = '0' then codePart (numberIn 8 (← takeSome isOctal 2))
        else if c.isDigit then readNumberEscape c
        else if c.isAlpha then failBack (.badEscape ['\\', c]) 2
        else codePart c.toNat

end Linewise.Pattern
