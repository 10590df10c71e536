/-
The depths at which blocks close, against the depths at which they are open.

`enclosing` lists the blocks around a statement, one for every unit of its width, innermost first.
`closingDepths_append_enclosing`: on the way from one statement to a less indented one the depths that close are exactly
the innermost of the blocks around the first; what is left are the blocks around the second, and one more if that one
continues the block before it.
-/
import Linewise.Terminator

namespace Linewise

/-- the depths of the blocks around a statement of this width, innermost first: one for every unit below it -/
def enclosing (unit width : Nat) : List Nat := ((List.range (width / unit)).map (unit * ·)).reverse

theorem enclosing_zero (unit : Nat) : enclosing unit 0 = [] := by
  rw [enclosing, Nat.zero_div]
  rfl

/-- a statement one unit deeper stands in one more block -/
theorem enclosing_add {unit width : Nat} (hunit : 0 < unit) (hdvd : unit ∣ width) :
    enclosing unit (width + unit) = width :: enclosing unit width := by
  rw [enclosing, Nat.add_div_right width hunit, List.range_succ, List.map_append, List.reverse_append, enclosing]
  show [unit * (width / unit)] ++ _ = _
  rw [Nat.mul_div_cancel' hdvd]
  rfl

/-- the innermost block around a statement begins one unit before it -/
theorem lt_of_head_enclosing {unit width depth : Nat} (hunit : 0 < unit)
    (h : (enclosing unit width).head? = some depth) : depth < width := by
  have hmem : depth ∈ enclosing unit width := List.mem_of_mem_head? h
  rw [enclosing, List.mem_reverse, List.mem_map] at hmem
  obtain ⟨i, hi, rfl⟩ := hmem
  calc
    unit * i < unit * (width / unit) := Nat.mul_lt_mul_of_pos_left (List.mem_range.1 hi) hunit
    _ ≤ width := Nat.mul_div_le width unit

/-- two multiples of the unit, one less than the other, are a unit apart -/
theorem add_le_of_lt_of_dvd {unit m n : Nat} (hm : unit ∣ m) (hn : unit ∣ n) (h : m < n) : m + unit ≤ n := by
  obtain ⟨i, rfl⟩ := hm
  obtain ⟨j, rfl⟩ := hn
  have hij : i < j := Nat.lt_of_mul_lt_mul_left h
  calc
    unit * i + unit = unit * (i + 1) := rfl
    _ ≤ unit * j := Nat.mul_le_mul_left unit hij

/-- **What closes and what stays open.** From `depth` back to `target` close the innermost of the blocks around `depth`;
the blocks around `target` stay open, and with them the one at `target` itself if the statement there continues it. -/
theorem closingDepths_append_enclosing {unit target : Nat} (continues : Bool) {fuel depth : Nat} (hunit : 0 < unit)
    (htarget : unit ∣ target) (hdepth : unit ∣ depth) (hle : target ≤ depth) (hfuel : depth ≤ fuel) :
    closingDepths unit target continues fuel depth ++
        ((if continues = true ∧ target < depth then [target] else []) ++ enclosing unit target) =
      enclosing unit depth := by
  induction fuel generalizing depth with
  | zero =>
    obtain rfl : depth = 0 := Nat.le_zero.1 hfuel
    obtain rfl : target = 0 := Nat.le_zero.1 hle
    simp [closingDepths]
  | succ fuel ih =>
    rw [closingDepths]
    by_cases hlt : target < depth
    · have hstep : target + unit ≤ depth := add_le_of_lt_of_dvd htarget hdepth hlt
      obtain ⟨outer, rfl⟩ : ∃ outer, depth = outer + unit := ⟨depth - unit, by omega⟩
      have houter : unit ∣ outer := (Nat.dvd_add_left (Nat.dvd_refl unit)).1 hdepth
      rw [if_pos hlt, Nat.add_sub_cancel, enclosing_add hunit houter]
      by_cases hlast : outer = target ∧ continues = true
      · obtain ⟨rfl, rfl⟩ := hlast
        simp [hlt]
      · rw [if_neg hlast, List.cons_append]
        -- the block at `target` stays open in the rest of the way just if it does on the whole of it
        have hsame : (continues = true ∧ target < outer + unit) ↔ (continues = true ∧ target < outer) := by
          constructor
          · rintro ⟨hcontinues, -⟩
            have hne : outer ≠ target := fun e => hlast ⟨e, hcontinues⟩
            exact ⟨hcontinues, by omega⟩
          · rintro ⟨hcontinues, h⟩
            exact ⟨hcontinues, by omega⟩
        have hrest := ih houter (by omega) (by omega)
        simp only [hsame, hrest]
    · obtain rfl : target = depth := by omega
      rw [if_neg hlt, if_neg fun h => hlt h.2]
      rfl

end Linewise
