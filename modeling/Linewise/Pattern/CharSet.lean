/-
Sets of characters, as a pattern names them: single characters, spans, and the categories of digits, blanks and word
characters, any of them negated.

When case is ignored, a character stands for its lower-case form. A member of the set holds that form if it names any form
of the letter; a category does if the form is in it. Beyond 0xffff not every form is looked at: a single character among
several members is asked for the lower-case form alone, and a span for it and its capital.
-/
import Linewise.Text.Blank
import Linewise.Text.Digit
import Linewise.Text.LetterCase
import Linewise.Text.Word

namespace Linewise.Pattern

/-- a named class of characters -/
inductive Category where
  | digit
  | blank
  | word
deriving DecidableEq, Repr, Inhabited

/-- membership in a category, over all of Unicode or over ASCII alone -/
def Category.contains (asciiOnly : Bool) : Category → Char → Bool
  | .digit, c => if asciiOnly then c.isDigit else isDecimal c
  | .blank, c => if asciiOnly then decide (c = ' ' ∨ (9 ≤ c.toNat ∧ c.toNat ≤ 13)) else isBlank c
  | .word, c => if asciiOnly then c.isAlphanum || c == '_' else isWordChar c

/-- one member of a set -/
inductive SetItem where
  | single (c : Char)
  /-- all code points from the first to the last, both included -/
  | span (first last : Nat)
  | category (kind : Category) (negated asciiOnly : Bool)
deriving DecidableEq, Repr

def SetItem.contains : SetItem → Char → Bool
  | .single d, c => c == d
  | .span first last, c => decide (first ≤ c.toNat ∧ c.toNat ≤ last)
  | .category kind negated asciiOnly, c => kind.contains asciiOnly c != negated

/-- the characters in one of the items, or in none of them if negated -/
structure CharSet where
  items : List SetItem
  negated : Bool := false
deriving DecidableEq, Repr

/-- how the case of letters counts -/
inductive Fold where
  /-- every character is itself alone -/
  | exact
  /-- capitals of ASCII count as their small letters -/
  | ascii
  /-- letters of every script count the same in all their forms -/
  | unicode
deriving DecidableEq, Repr, Inhabited

namespace Fold

/-- the form of a character that is compared -/
def lower : Fold → Char → Char
  | .exact, c => c
  | .ascii, c => c.toLower
  | .unicode, c => lowerChar c

/-- the code points that count the same as the compared form `n` -/
def forms : Fold → Nat → List Nat
  | .exact, n => [n]
  | .ascii, n => if 97 ≤ n ∧ n ≤ 122 then [n, n - 32] else [n]
  | .unicode, n => letterForms n

end Fold

/-- the last code point for which all forms of a letter are looked at -/
def lastFoldable : Nat := 0xffff

/-- the item holds a character whose compared form is `n`; an item that is alone in its set is asked for every form -/
def SetItem.covers (fold : Fold) (isAlone : Bool) (n : Nat) : SetItem → Bool
  | .single c => if isAlone || c.toNat ≤ lastFoldable then (fold.forms n).contains c.toNat else c.toNat == n
  | .span first last =>
    ((fold.forms n).any fun m => first ≤ m && m ≤ min last lastFoldable) ||
      decide (lastFoldable < last) && [n, capitalCode n].any fun m => first ≤ m && m ≤ last
  | .category kind negated asciiOnly => kind.contains asciiOnly (Char.ofNat n) != negated

namespace CharSet

/-- some item holds the character -/
def covers (s : CharSet) (fold : Fold) (c : Char) : Bool :=
  match fold with
  | .exact => s.items.any (·.contains c)
  | fold => s.items.any (·.covers fold (s.items.length == 1) (fold.lower c).toNat)

/-- membership of a character -/
def contains (s : CharSet) (fold : Fold) (c : Char) : Bool := s.covers fold c != s.negated

/-- just this character -/
def single (c : Char) : CharSet := ⟨[.single c], false⟩

def digit : CharSet := ⟨[.category .digit false false], false⟩

def blank : CharSet := ⟨[.category .blank false false], false⟩

def word : CharSet := ⟨[.category .word false false], false⟩

/-- any character but a line feed -/
def notNewline : CharSet := ⟨[.single '\n'], true⟩

/-- any character at all -/
def all : CharSet := ⟨[], true⟩

@[simp] theorem contains_single (c d : Char) : (single c).contains .exact d = (d == c) := by
  simp [single, contains, covers, SetItem.contains]

@[simp] theorem contains_word (c : Char) : word.contains .exact c = isWordChar c := by
  simp [word, contains, covers, SetItem.contains, Category.contains]

@[simp] theorem contains_blank (c : Char) : blank.contains .exact c = isBlank c := by
  simp [blank, contains, covers, SetItem.contains, Category.contains]

@[simp] theorem contains_digit (c : Char) : digit.contains .exact c = isDecimal c := by
  simp [digit, contains, covers, SetItem.contains, Category.contains]

@[simp] theorem contains_notNewline (c : Char) : notNewline.contains .exact c = (c != '\n') := by
  simp [notNewline, contains, covers, SetItem.contains, bne]

@[simp] theorem contains_all (c : Char) : all.contains .exact c = true := by
  simp [all, contains, covers]

end CharSet

end Linewise.Pattern
