/-
Patterns: what a search looks for in a text.

A `Pattern` is a tree over single characters; groups remember what they matched, and back-references, conditionals and
looks around the current place read the text without (or beyond) plain concatenation and choice. The short names below
build the fixed patterns of the edits and of the statement shapes.
-/
import Linewise.Pattern.CharSet

namespace Linewise

namespace Pattern

/-- a condition on the place between two characters -/
inductive Anchor where
  | textStart
  | lineStart
  | textEnd
  /-- the end of the text, or the place before a line feed that ends it -/
  | lastLineEnd
  | lineEnd
  /-- a word character on exactly one side -/
  | wordBoundary (asciiOnly : Bool)
  | noWordBoundary (asciiOnly : Bool)
deriving DecidableEq, Repr, Inhabited

/-- whether a repetition takes as much as it can, or as little -/
inductive Greed where
  | greedy
  | lazy
deriving DecidableEq, Repr, Inhabited

end Pattern

/-- a pattern -/
inductive Pattern where
  | empty
  /-- one character of the set -/
  | one (set : Pattern.CharSet) (fold : Pattern.Fold)
  | cat (p q : Pattern)
  | alt (p q : Pattern)
  /-- `least` or more repetitions, at most `most` if there is such a bound -/
  | many (p : Pattern) (least : Nat) (most : Option Nat) (greed : Pattern.Greed)
  /-- the text matched by `p` is remembered under `index` -/
  | group (index : Nat) (p : Pattern)
  /-- `p` as it first matches, without going back into it -/
  | atomic (p : Pattern)
  /-- the text that a group remembers, again -/
  | backReference (index : Nat) (fold : Pattern.Fold)
  | anchor (a : Pattern.Anchor)
  /-- `p` matches from here (or does not), and nothing is consumed -/
  | ahead (negated : Bool) (p : Pattern)
  /-- `p` matches the `width` characters before here (or does not) -/
  | behind (width : Nat) (negated : Bool) (p : Pattern)
  /-- `p` if the group remembers something, else `q` -/
  | ifGroup (index : Nat) (p q : Pattern)
deriving DecidableEq, Repr

namespace Pattern

instance : Inhabited Pattern := ⟨.empty⟩

/-- the patterns one after another -/
def ofList : List Pattern → Pattern
  | [] => .empty
  | [p] => p
  | p :: rest => .cat p (ofList rest)

/-- just this character -/
def char (c : Char) : Pattern := .one (.single c) .exact

/-- one of these characters -/
def oneOf (cs : List Char) : Pattern := .one ⟨cs.map .single, false⟩ .exact

/-- any character but these -/
def noneOf (cs : List Char) : Pattern := .one ⟨cs.map .single, true⟩ .exact

/-- any character but a line feed -/
def any : Pattern := .one .notNewline .exact

def wordChar : Pattern := .one .word .exact

/-- a word character or a dot: what dotted names are made of -/
def dottedChar : Pattern := .one ⟨[.category .word false false, .single '.'], false⟩ .exact

def blank : Pattern := .one .blank .exact

/-- any number of times, as often as possible -/
def star (p : Pattern) : Pattern := .many p 0 none .greedy

/-- at least once, as often as possible -/
def plus (p : Pattern) : Pattern := .many p 1 none .greedy

def wordBoundary : Pattern := .anchor (.wordBoundary false)

/-- the end of the text, or the place before a line feed that ends it -/
def lastLineEnd : Pattern := .anchor .lastLineEnd

/-- the characters of a text, one after another -/
def chars (t : Text) : List Pattern := t.map char

/-- a text, character by character -/
def literal (t : Text) : Pattern := ofList (chars t)

end Pattern

end Linewise
