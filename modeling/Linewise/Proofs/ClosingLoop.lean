/-
How many blocks a dedent closes, and where.

Closing goes from the depth of the last statement back to the width of the next one, a unit at a time and never past the
margin. `Closes` is that loop as a relation, round by round, with no bound on the number of rounds; without a unit of at
least one column it would never end (`not_closes_zero`). `unitsBack` counts its rounds, `closedBlocks` the blocks that it
closes: one fewer if the last round reaches the next statement exactly and that one continues its block.

`closeBlocks_closed_form`: under any unit of at least one column the loop ends, in one way, and closing blocks gives what
it gives: a terminator at the end of each round, and the owed blank lines after them.
-/
import Linewise.Terminator
import Mathlib.Algebra.Order.Floor.Div

namespace Linewise

/-- the closing of blocks on the way from a depth back to `target`, and the depths at which they close -/
inductive Closes (unit target : Nat) (continues : Bool) : Nat → List Nat → Prop where
  /-- the next statement is reached or passed -/
  | reached {depth : Nat} (h : depth ≤ target) : Closes unit target continues depth []
  /-- the next statement is reached and continues its block -/
  | continued {depth : Nat} (h : target < depth) (hkept : depth - unit = target ∧ continues = true) :
      Closes unit target continues depth []
  /-- the innermost block closes, one unit further out -/
  | closed {depth : Nat} {outer : List Nat} (h : target < depth) (hkept : ¬(depth - unit = target ∧ continues = true))
      (hrest : Closes unit target continues (depth - unit) outer) :
      Closes unit target continues depth ((depth - unit) :: outer)

/-- the units on the way from `depth` back to `target`, the last of which may pass it -/
def unitsBack (unit target depth : Nat) : Nat := if target < depth then (depth - target) ⌈/⌉ unit else 0

/-- how many blocks close on the way -/
def closedBlocks (unit target : Nat) (continues : Bool) (depth : Nat) : Nat :=
  if continues = true ∧ target < depth ∧ depth - unitsBack unit target depth * unit = target then
    unitsBack unit target depth - 1
  else unitsBack unit target depth

/-- the depths at which they close, innermost first -/
def depthsBack (unit target : Nat) (continues : Bool) (depth : Nat) : List Nat :=
  (List.range (closedBlocks unit target continues depth)).map fun i => depth - (i + 1) * unit

section

variable {unit target : Nat} {continues : Bool}

/-! ## The loop -/

/-- without a unit the loop does not get anywhere -/
theorem not_closes_zero {depth : Nat} (h : target < depth) (depths : List Nat) :
    ¬ Closes 0 target continues depth depths := by
  intro hcloses
  induction hcloses with
  | reached hle => omega
  | continued _ hkept => omega
  | closed hlt _ _ ih => exact ih hlt

/-- with a unit the loop ends, and gives the depths that close -/
theorem closes_closingDepths (hunit : 0 < unit) {fuel depth : Nat} (hfuel : depth ≤ fuel) :
    Closes unit target continues depth (closingDepths unit target continues fuel depth) := by
  induction fuel generalizing depth with
  | zero => exact .reached (by omega)
  | succ fuel ih =>
    rw [closingDepths]
    split_ifs with hlt hkept
    · exact .continued hlt hkept
    · exact .closed hlt hkept (ih (by omega))
    · exact .reached (Nat.le_of_not_lt hlt)

/-- it ends in one way -/
theorem Closes.eq {depth : Nat} {depths depths' : List Nat} (h : Closes unit target continues depth depths)
    (h' : Closes unit target continues depth depths') : depths = depths' := by
  induction h generalizing depths' with
  | reached hle =>
    cases h' with
    | reached => rfl
    | continued => rfl
    | closed hlt => omega
  | continued hlt hkept =>
    cases h' with
    | reached => rfl
    | continued => rfl
    | closed _ hnot => exact absurd hkept hnot
  | closed hlt hnot _ ih =>
    cases h' with
    | reached => omega
    | continued _ hkept => exact absurd hkept hnot
    | closed _ _ hrest => rw [ih hrest]

/-! ## Its rounds -/

theorem unitsBack_of_le {depth : Nat} (h : depth ≤ target) : unitsBack unit target depth = 0 :=
  if_neg (Nat.not_lt.2 h)

/-- one round, and those that are left after it -/
theorem unitsBack_of_lt (hunit : 0 < unit) {depth : Nat} (h : target < depth) :
    unitsBack unit target depth = unitsBack unit target (depth - unit) + 1 := by
  rw [unitsBack, if_pos h, unitsBack, Nat.ceilDiv_eq_add_pred_div]
  by_cases hmore : target < depth - unit
  · have hsplit : depth - target + unit - 1 = (depth - unit - target + unit - 1) + unit := by omega
    rw [if_pos hmore, hsplit, Nat.add_div_right _ hunit, Nat.ceilDiv_eq_add_pred_div]
  · -- the last round: at most one unit is left, but something is
    rw [if_neg hmore]
    exact Nat.div_eq_of_lt_le (by omega) (by omega)

theorem closedBlocks_of_le {depth : Nat} (h : depth ≤ target) : closedBlocks unit target continues depth = 0 := by
  rw [closedBlocks, unitsBack_of_le h]
  split_ifs <;> rfl

/-- a round that reaches a statement which continues its block closes nothing, and is the last -/
theorem closedBlocks_of_continued (hunit : 0 < unit) {depth : Nat} (h : target < depth)
    (hkept : depth - unit = target ∧ continues = true) : closedBlocks unit target continues depth = 0 := by
  have hone : unitsBack unit target depth = 1 := by rw [unitsBack_of_lt hunit h, unitsBack_of_le (by omega)]
  rw [closedBlocks, hone, Nat.one_mul, if_pos ⟨hkept.2, h, hkept.1⟩]

/-- any other round closes one block -/
theorem closedBlocks_of_closed (hunit : 0 < unit) {depth : Nat} (h : target < depth)
    (hnot : ¬(depth - unit = target ∧ continues = true)) :
    closedBlocks unit target continues depth = closedBlocks unit target continues (depth - unit) + 1 := by
  rw [closedBlocks, closedBlocks, unitsBack_of_lt hunit h, Nat.add_mul, Nat.one_mul, Nat.add_comm _ unit,
    ← Nat.sub_sub]
  by_cases hmore : target < depth - unit
  · have hpos := unitsBack_of_lt hunit hmore
    simp only [h, hmore, true_and]
    split_ifs <;> omega
  · rw [unitsBack_of_le (Nat.le_of_not_lt hmore)]
    simp only [Nat.zero_mul, Nat.sub_zero, h, hmore, true_and, false_and, and_false, if_false]
    rw [if_neg fun hkept => hnot hkept.symm]

/-- the loop gives the depths that are counted -/
theorem closingDepths_eq_depthsBack (hunit : 0 < unit) {fuel depth : Nat} (hfuel : depth ≤ fuel) :
    closingDepths unit target continues fuel depth = depthsBack unit target continues depth := by
  induction fuel generalizing depth with
  | zero => rw [closingDepths, depthsBack, closedBlocks_of_le (by omega)]; rfl
  | succ fuel ih =>
    rw [closingDepths, depthsBack]
    split_ifs with hlt hkept
    · rw [closedBlocks_of_continued hunit hlt hkept]
      rfl
    · rw [closedBlocks_of_closed hunit hlt hkept, List.range_succ_eq_map, List.map_cons, List.map_map, ih (by omega),
        depthsBack]
      have hstep : ∀ i, depth - unit - (i + 1) * unit = depth - (i + 1 + 1) * unit := by
        intro i
        rw [Nat.sub_sub, Nat.add_mul (i + 1), Nat.one_mul, Nat.add_comm unit]
      simp only [Function.comp_def, Nat.succ_eq_add_one, Nat.zero_add, Nat.one_mul, hstep]
    · rw [closedBlocks_of_le (Nat.le_of_not_lt hlt)]
      rfl

end

/-! ## Closing blocks -/

/-- **What a dedent closes.** Under a unit of at least one column the loop from the last statement back to the current
width ends, in one way: it closes `closedBlocks`, one unit further out each. Closing blocks gives a terminator for each of
them and then the owed blank lines, at the current width; afterwards the last statement stands at that width, nothing is
owed, and the rest is as it was. -/
theorem closeBlocks_closed_form {unit : Nat} (hunit : 0 < unit) (continues : Bool) (m : Margin) :
    (∀ depths, Closes unit m.current continues m.previous depths ↔
      depths = depthsBack unit m.current continues m.previous) ∧
      closeBlocks unit continues m =
        ((depthsBack unit m.current continues m.previous).map .terminator ++
            List.replicate m.pendingBlanks (.blank m.current),
          { m with previous := m.current, pendingBlanks := 0 }) := by
  have hdepths : closingDepths unit m.current continues m.previous m.previous =
      depthsBack unit m.current continues m.previous := closingDepths_eq_depthsBack hunit (Nat.le_refl _)
  have hends : Closes unit m.current continues m.previous (depthsBack unit m.current continues m.previous) :=
    hdepths ▸ closes_closingDepths hunit (Nat.le_refl _)
  refine ⟨fun depths => ⟨fun h => h.eq hends, fun h => h ▸ hends⟩, ?_⟩
  rw [closeBlocks, hdepths]

/-- from six columns back to the margin in units of four: the second round stops at the margin, where the block goes on -/
theorem closeBlocks_past_margin :
    0 < 4 ∧ depthsBack 4 0 true 6 = [2] ∧
      closeBlocks 4 true ⟨0, 6, 2⟩ = ([.terminator 2, .blank 0, .blank 0], ⟨0, 0, 0⟩) := by
  have hunit : 0 < 4 := by decide
  have hdepths : depthsBack 4 0 true 6 = [2] := by decide
  have hclosed := (closeBlocks_closed_form hunit true ⟨0, 6, 2⟩).2
  rw [hdepths] at hclosed
  exact ⟨hunit, hdepths, hclosed⟩

end Linewise
