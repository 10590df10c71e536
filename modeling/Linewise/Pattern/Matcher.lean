/-
Matching by backtracking.

`run p k f` matches `p` at the place of `f` and hands every way to do so, in order of preference, to `k`, until `k`
accepts one. Choice prefers its left side; a greedy repetition prefers one more round, a lazy one prefers to stop. A
round beyond the least number that consumes nothing is the last one, so every repetition ends: `rounds` bounds it by the
least number and the length of the text that is left.
-/
import Linewise.Pattern.Basic

namespace Linewise.Pattern

/-- a place in a text: the characters before it, last one first, and those after it -/
structure Place where
  before : List Char
  after : List Char
deriving DecidableEq, Repr, Inhabited

namespace Place

/-- the place at the start of a text -/
def start (t : Text) : Place := ⟨[], t⟩

/-- the whole text around the place -/
def text (p : Place) : Text := p.before.reverse ++ p.after

/-- how many characters stand before the place -/
def offset (p : Place) : Nat := p.before.length

/-- the place `n` characters back -/
def back? : Nat → Place → Option Place
  | 0, p => some p
  | n + 1, p =>
    match p.before with
    | [] => none
    | c :: rest => back? n ⟨rest, c :: p.after⟩

/-- the characters from one place to a later one of the same text -/
def upTo (p q : Place) : Text := p.after.take (q.offset - p.offset)

end Place

/-- a place reached, with what the groups remember, latest first -/
structure Found where
  place : Place
  groups : List (Nat × Text)
deriving DecidableEq, Repr, Inhabited

namespace Found

/-- what a group remembers -/
def group? (f : Found) (index : Nat) : Option Text := f.groups.lookup index

/-- what a group remembers, nothing if it took no part -/
def group (f : Found) (index : Nat) : Text := (f.group? index).getD []

end Found

/-- a word character, in the sense of the boundary -/
def isWordAt (asciiOnly : Bool) : List Char → Bool
  | [] => false
  | c :: _ => Category.word.contains asciiOnly c

/-- the condition holds at the place -/
def Anchor.holds : Anchor → Place → Bool
  | .textStart, p => p.before.isEmpty
  | .lineStart, p => p.before.isEmpty || p.before.head? == some '\n'
  | .textEnd, p => p.after.isEmpty
  | .lastLineEnd, p => p.after.isEmpty || p.after == ['\n']
  | .lineEnd, p => p.after.isEmpty || p.after.head? == some '\n'
  | .wordBoundary asciiOnly, p => isWordAt asciiOnly p.before != isWordAt asciiOnly p.after
  | .noWordBoundary asciiOnly, p =>
    !(p.before.isEmpty && p.after.isEmpty) && isWordAt asciiOnly p.before == isWordAt asciiOnly p.after

/-- the text `t` from the place on, or one with the same lower-case forms if case is ignored -/
def takeText (fold : Fold) : Text → Place → Option Place
  | [], p => some p
  | c :: rest, p =>
    match p.after with
    | [] => none
    | d :: after => if fold.lower d = fold.lower c then takeText fold rest ⟨d :: p.before, after⟩ else none

/-- at most how many rounds a repetition of at least `least` can make before the end of the text -/
def rounds (least : Nat) (f : Found) : Nat := least + f.place.after.length + 2

/-- there is room for another round -/
def hasRoom (count : Nat) : Option Nat → Bool
  | none => true
  | some most => count < most

/-- as many rounds as possible, then `k`; `last` is where the round before the current one beyond `least` began -/
def greedyRounds (body : (Found → Option Found) → Found → Option Found) (least : Nat) (most : Option Nat)
    (k : Found → Option Found) : Nat → Nat → Option Nat → Found → Option Found
  | 0, _, _, f => k f
  | fuel + 1, count, last, f =>
    if count < least then body (greedyRounds body least most k fuel (count + 1) last) f
    else if hasRoom count most && last != some f.place.offset then
      (body (greedyRounds body least most k fuel (count + 1) (some f.place.offset)) f).or (k f)
    else k f

/-- as few rounds as possible, then `k` -/
def lazyRounds (body : (Found → Option Found) → Found → Option Found) (least : Nat) (most : Option Nat)
    (k : Found → Option Found) : Nat → Nat → Option Nat → Found → Option Found
  | 0, _, _, f => k f
  | fuel + 1, count, last, f =>
    if count < least then body (lazyRounds body least most k fuel (count + 1) last) f
    else
      (k f).or (if hasRoom count most && last != some f.place.offset then
        body (lazyRounds body least most k fuel (count + 1) (some f.place.offset)) f else none)

/-- match the pattern at the place of `f`, then `k` -/
def run : Pattern → (Found → Option Found) → Found → Option Found
  | .empty, k, f => k f
  | .one set fold, k, f =>
    match f.place.after with
    | [] => none
    | c :: rest =>
      if set.contains fold c then k { f with place := ⟨c :: f.place.before, rest⟩ } else none
  | .cat p q, k, f => run p (fun g => run q k g) f
  | .alt p q, k, f => (run p k f).or (run q k f)
  | .many p least most .greedy, k, f =>
    greedyRounds (fun j g => run p j g) least most k (rounds least f) 0 none f
  | .many p least most .lazy, k, f =>
    lazyRounds (fun j g => run p j g) least most k (rounds least f) 0 none f
  | .group index p, k, f =>
    run p (fun g => k { g with groups := (index, f.place.upTo g.place) :: g.groups }) f
  | .atomic p, k, f => (run p some f).bind k
  | .backReference index fold, k, f =>
    match f.group? index with
    | none => none
    | some t => (takeText fold t f.place).bind fun p => k { f with place := p }
  | .anchor a, k, f => if a.holds f.place then k f else none
  | .ahead false p, k, f => (run p some f).bind fun g => k { f with groups := g.groups }
  | .ahead true p, k, f => if (run p some f).isSome then none else k f
  | .behind width false p, k, f =>
    (f.place.back? width).bind fun b =>
      (run p some { f with place := b }).bind fun g => k { f with groups := g.groups }
  | .behind width true p, k, f =>
    match f.place.back? width with
    | none => k f
    | some b => if (run p some { f with place := b }).isSome then none else k f
  | .ifGroup index p q, k, f => if (f.group? index).isSome then run p k f else run q k f

/-- the pattern matches at the start of the text -/
def matchStart (p : Pattern) (t : Text) : Option Found := run p some ⟨.start t, []⟩

/-! ### One equation per kind of pattern -/

variable (k : Found → Option Found) (f : Found)

@[simp] theorem run_empty : run .empty k f = k f := by rw [run]

@[simp] theorem run_cat (p q : Pattern) : run (.cat p q) k f = run p (run q k) f := by rw [run]

@[simp] theorem run_alt (p q : Pattern) : run (.alt p q) k f = (run p k f).or (run q k f) := by rw [run]

@[simp] theorem run_anchor (a : Anchor) : run (.anchor a) k f = if a.holds f.place then k f else none := by rw [run]

theorem run_one_nil (set : CharSet) (fold : Fold) (before : List Char) (groups : List (Nat × Text)) :
    run (.one set fold) k ⟨⟨before, []⟩, groups⟩ = none := by rw [run]

theorem run_one_cons (set : CharSet) (fold : Fold) (before : List Char) (c : Char) (rest : List Char)
    (groups : List (Nat × Text)) :
    run (.one set fold) k ⟨⟨before, c :: rest⟩, groups⟩ =
      if set.contains fold c then k ⟨⟨c :: before, rest⟩, groups⟩ else none := by rw [run]

end Linewise.Pattern
