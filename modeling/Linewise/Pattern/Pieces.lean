/-
Every occurrence of a pattern in a text, and their replacement.

`pieces` walks the text once, from left to right. At each place it prefers the pattern's match there; the characters of a
match are not looked at again. An empty match leaves its place to a match that consumes something, so a place holds at
most one empty occurrence, and one may directly follow an occurrence that is not empty.
-/
import Linewise.Pattern.Matcher

namespace Linewise.Pattern

/-- an occurrence: where it begins, where it ends, and what its groups remember -/
structure Hit where
  begins : Place
  found : Found
deriving DecidableEq, Repr

namespace Hit

/-- the characters of the occurrence -/
def text (h : Hit) : Text := h.begins.upTo h.found.place

/-- what a group remembers, nothing if it took no part -/
def group (h : Hit) (index : Nat) : Text := h.found.group index

/-- how many characters the occurrence has -/
def length (h : Hit) : Nat := h.found.place.offset - h.begins.offset

end Hit

/-- a piece of a searched text -/
inductive Piece where
  /-- a character outside every occurrence -/
  | kept (c : Char)
  | hit (h : Hit)
deriving DecidableEq, Repr

/-- the pattern matches at the place -/
def matchAt (p : Pattern) (place : Place) : Option Hit :=
  (run p some ⟨place, []⟩).map (⟨place, ·⟩)

/-- the pattern matches at the place and consumes something -/
def matchBeyond (p : Pattern) (place : Place) : Option Hit :=
  (run p (fun f => if f.place.offset = place.offset then none else some f) ⟨place, []⟩).map (⟨place, ·⟩)

/-- the occurrences at one place, and how many characters they take -/
def hitsAt (p : Pattern) (place : Place) : List Hit × Nat :=
  match matchAt p place with
  | none => ([], 0)
  | some h =>
    if h.length ≠ 0 then ([h], h.length)
    else match matchBeyond p place with
      | none => ([h], 0)
      | some g => ([h, g], g.length)

/-- the pieces from a place on, after `skip` characters that belong to an occurrence -/
def piecesFrom (p : Pattern) (before : List Char) : List Char → Nat → List Piece
  | c :: rest, skip + 1 => piecesFrom p (c :: before) rest skip
  | [], _ + 1 => []
  | [], 0 => (hitsAt p ⟨before, []⟩).1.map .hit
  | c :: rest, 0 =>
    match hitsAt p ⟨before, c :: rest⟩ with
    | (hits, 0) => hits.map .hit ++ .kept c :: piecesFrom p (c :: before) rest 0
    | (hits, n + 1) => hits.map .hit ++ piecesFrom p (c :: before) rest n

/-- the text, cut into the occurrences of the pattern and the characters between them -/
def pieces (p : Pattern) (t : Text) : List Piece := piecesFrom p [] t 0

/-- the occurrences of the pattern, from left to right -/
def hits (p : Pattern) (t : Text) : List Hit :=
  (pieces p t).filterMap fun
    | .kept _ => none
    | .hit h => some h

/-- a piece after replacement -/
def Piece.replaced (replacement : Hit → Text) : Piece → Text
  | .kept c => [c]
  | .hit h => replacement h

/-- the text with every occurrence replaced -/
def replace (p : Pattern) (replacement : Hit → Text) (t : Text) : Text := (pieces p t).flatMap (Piece.replaced replacement)

end Linewise.Pattern
