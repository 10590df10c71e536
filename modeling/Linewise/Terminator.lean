/-
Block terminators.

Blocks are only implied by indentation in the input. When a statement is less indented than the one before it, one
terminator line is due for every indentation unit crossed, each at the depth of the block it closes; a statement that
continues the block before it (`else`, `except`) closes one block fewer. Blank lines are owed until the next statement
and come after its terminators, so they never separate a block from its terminator.
-/
import Linewise.Config.Basic
import Linewise.Text.Word

namespace Linewise

/-- the lines of the output, by what they stand for -/
inductive OutLine where
  /-- the end of the block at this depth -/
  | terminator (depth : Nat)
  /-- an owed blank line, indented like the statement that released it -/
  | blank (width : Nat)
  /-- a line of a block string -/
  | comment (width : Nat) (text : Text)
  /-- a line that continues another, copied through -/
  | interior (width : Nat) (text : Text)
  | statement (width : Nat) (text : Text)
deriving DecidableEq, Repr, Inhabited

/-- the line as it is written -/
def OutLine.render (layout : Layout) : OutLine → Text
  | .terminator depth => Text.spaces depth ++ layout.terminator
  | .blank width => Text.spaces width
  | .comment width text => Text.trimRight (Text.spaces width ++ layout.commentPrefix ++ [' '] ++ text)
  | .interior width text => Text.spaces width ++ text
  | .statement width text => Text.spaces width ++ text

/-- the statement begins with the keyword, as a whole word -/
def beginsWithKeyword (text keyword : Text) : Bool :=
  text.startsWith keyword && !((text.drop keyword.length).head?.any isWordChar)

/-- the statement continues the block before it -/
def isBlockContinuation (keywords : List Text) (text : Text) : Bool := keywords.any (beginsWithKeyword text)

/-- where the indentation stands between two lines -/
structure Margin where
  /-- the width of the line at hand -/
  current : Nat := 0
  /-- the width of the last statement -/
  previous : Nat := 0
  /-- how many blank lines are owed -/
  pendingBlanks : Nat := 0
deriving DecidableEq, Repr, Inhabited

/-- the depths at which blocks close on the way from `depth` back to `target`, in steps of `unit`; at most `fuel` -/
def closingDepths (unit target : Nat) (continues : Bool) : Nat → Nat → List Nat
  | 0, _ => []
  | fuel + 1, depth =>
    if target < depth then
      if depth - unit = target ∧ continues = true then []
      else (depth - unit) :: closingDepths unit target continues fuel (depth - unit)
    else []

/-- the terminators due before a statement at the current width, then the owed blank lines -/
def closeBlocks (unit : Nat) (continues : Bool) (m : Margin) : List OutLine × Margin :=
  ((closingDepths unit m.current continues m.previous m.previous).map .terminator ++
      List.replicate m.pendingBlanks (.blank m.current),
    { m with previous := m.current, pendingBlanks := 0 })

@[simp] theorem closeBlocks_snd (unit : Nat) (continues : Bool) (m : Margin) :
    (closeBlocks unit continues m).2 = ⟨m.current, m.current, 0⟩ := rfl

/-- no block closes when the statement is at least as deep as the one before -/
theorem closingDepths_of_le {unit target depth : Nat} (continues : Bool) (fuel : Nat) (h : depth ≤ target) :
    closingDepths unit target continues fuel depth = [] := by
  cases fuel with
  | zero => rfl
  | succ fuel => rw [closingDepths, if_neg (Nat.not_lt.mpr h)]

end Linewise
