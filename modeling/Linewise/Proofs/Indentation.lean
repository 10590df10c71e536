/-
Indentation, cut off and measured.

A line has one cut: the longest run of indenting characters that it begins with, the blanks at its end, and the text
between the two (`Cut.unique`). Every character takes the column on by one at least and by a tab stop at most, and a tab
goes to the next tab stop (`isLeast_advance_tab`).

`line_normalizes`: what the cut of a line is, within which bounds its width lies, and that the line is cut and measured the
same when its indentation is written out in spaces.
-/
import Linewise.Indent
import Linewise.Proofs.Pattern.Sequences
import Linewise.Proofs.Trimming
import Mathlib.Order.Bounds.Defs

namespace Linewise.Indent

/-! ## One more character -/

variable {column : Nat} {c : Char}

theorem advance_of_ne (h : c ≠ '\t') : advance column c = column + 1 := if_neg h

/-- a tab goes to the next tab stop -/
theorem isLeast_advance_tab (column : Nat) : IsLeast {n | tabStop ∣ n ∧ column < n} (advance column '\t') := by
  have htab : advance column '\t' = (column / tabStop + 1) * tabStop := if_pos rfl
  have hpos : 0 < tabStop := by decide
  rw [htab]
  constructor
  · constructor
    · exact Nat.dvd_mul_left tabStop _
    · exact Nat.lt_mul_of_div_lt (Nat.lt_succ_self _) hpos
  · rintro n ⟨⟨k, rfl⟩, hn⟩
    -- a later stop `k` is later than the one before the column
    have hk : column / tabStop < k := Nat.div_lt_of_lt_mul hn
    rw [Nat.mul_comm]
    exact Nat.mul_le_mul_left tabStop hk

theorem lt_advance (column : Nat) (c : Char) : column < advance column c := by
  by_cases hc : c = '\t'
  · subst hc
    exact (isLeast_advance_tab column).1.2
  · rw [advance_of_ne hc]
    exact Nat.lt_succ_self column

theorem advance_le (column : Nat) (c : Char) : advance column c ≤ column + tabStop := by
  unfold advance
  split
  · have := Nat.div_mul_le_self column tabStop
    rw [Nat.add_mul, Nat.one_mul]
    omega
  · unfold tabStop
    omega

theorem advance_mono (c : Char) {m n : Nat} (h : m ≤ n) : advance m c ≤ advance n c := by
  unfold advance
  split
  · exact Nat.mul_le_mul_right tabStop (Nat.succ_le_succ (Nat.div_le_div_right h))
  · exact Nat.succ_le_succ h

/-! ## Runs of characters -/

theorem width_append (x y : Text) : width (x ++ y) = y.foldl advance (width x) := List.foldl_append

theorem width_append_tab (x : Text) : width (x ++ ['\t']) = advance (width x) '\t' := width_append x ['\t']

theorem add_length_le_foldl_advance (column : Nat) (y : Text) : column + y.length ≤ y.foldl advance column := by
  induction y generalizing column with
  | nil => exact Nat.le_refl column
  | cons c y ih =>
    have hnext := lt_advance column c
    calc column + (c :: y).length
      _ ≤ advance column c + y.length := by rw [List.length_cons]; omega
      _ ≤ y.foldl advance (advance column c) := ih _

theorem foldl_advance_le (column : Nat) (y : Text) : y.foldl advance column ≤ column + tabStop * y.length := by
  induction y generalizing column with
  | nil => exact Nat.le_refl column
  | cons c y ih =>
    have hnext := advance_le column c
    calc y.foldl advance (advance column c)
      _ ≤ advance column c + tabStop * y.length := ih _
      _ ≤ column + tabStop * (c :: y).length := by rw [List.length_cons, Nat.mul_succ]; omega

/-- a run that begins further right ends there -/
theorem foldl_advance_mono (y : Text) {m n : Nat} (h : m ≤ n) : y.foldl advance m ≤ y.foldl advance n := by
  induction y generalizing m n with
  | nil => exact h
  | cons c y ih => exact ih (advance_mono c h)

/-- what is appended takes every character one column on at least, and a tab stop at most -/
theorem width_append_bounds (x y : Text) :
    width x + y.length ≤ width (x ++ y) ∧ width (x ++ y) ≤ width x + tabStop * y.length := by
  rw [width_append]
  exact ⟨add_length_le_foldl_advance _ y, foldl_advance_le _ y⟩

theorem length_le_width (x : Text) : x.length ≤ width x := by
  have h := (width_append_bounds [] x).1
  rwa [List.nil_append, width, List.foldl_nil, Nat.zero_add] at h

theorem width_le (x : Text) : width x ≤ tabStop * x.length := by
  have h := (width_append_bounds [] x).2
  rwa [List.nil_append, show width [] = 0 from rfl, Nat.zero_add] at h

/-! ## The cut of a line -/

/-- the characters that indent a line -/
def indentChars : List Char := [' ', '\t', '\x0c', '\x0b']

theorem isIndentChar_iff : isIndentChar c = true ↔ c ∈ indentChars := by
  simp [isIndentChar, indentChars, or_assoc]

theorem isBlank_of_mem_indentChars (h : c ∈ indentChars) : isBlank c = true := by
  have hall : indentChars.all isBlank = true := by decide
  exact List.all_eq_true.1 hall c h

/-- `raw` is cut into its indentation, which ends only where it must, a text that does not end with a blank, and blanks -/
structure Cut (raw indent text pad : Text) : Prop where
  append : raw = indent ++ (text ++ pad)
  indents : ∀ c ∈ indent, c ∈ indentChars
  stops : ∀ c ∈ (text ++ pad).head?, c ∉ indentChars
  ends : ∀ c ∈ text.getLast?, isBlank c = false
  blanks : ∀ c ∈ pad, isBlank c = true

/-- splitting a line cuts it -/
theorem exists_cut (raw : Text) : ∃ pad, Cut raw (leading raw) (rest raw) pad := by
  obtain ⟨pad, hsplit, hpad⟩ := Text.exists_append_eq_trimRight (raw.dropWhile isIndentChar)
  have hrest : rest raw ++ pad = raw.dropWhile isIndentChar := hsplit.symm
  refine ⟨pad, ?_, ?_, ?_, Text.isBlank_of_mem_getLast?_trimRight, hpad⟩
  · rw [hrest, leading, List.takeWhile_append_dropWhile]
  · intro c hc
    exact isIndentChar_iff.1 (List.mem_takeWhile_imp hc)
  · intro c hc hmem
    have hnot := List.head?_dropWhile_not isIndentChar raw
    rw [← hrest, Option.mem_def.1 hc] at hnot
    have hnot : isIndentChar c = false := hnot
    rw [isIndentChar_iff.2 hmem] at hnot
    cases hnot

namespace Cut

variable {raw indent text pad indent' text' pad' : Text}

/-- a line has one cut -/
theorem unique (h : Cut raw indent text pad) (h' : Cut raw indent' text' pad') : indent = indent' ∧ text = text' := by
  have hindents {s : Text} (hs : ∀ c ∈ s, c ∈ indentChars) : ∀ c ∈ s, isIndentChar c = true := by
    intro c hc
    exact isIndentChar_iff.2 (hs c hc)
  have hstops {s : Text} (hs : ∀ c ∈ s.head?, c ∉ indentChars) : ∀ c ∈ s.head?, isIndentChar c = false := by
    intro c hc
    rw [Bool.eq_false_iff, ne_eq, isIndentChar_iff]
    exact hs c hc
  obtain ⟨hindent, hafter⟩ := eq_of_longest_run (h.append.symm.trans h'.append) (hindents h.indents) (hstops h.stops)
    (hindents h'.indents) (hstops h'.stops)
  refine ⟨hindent, ?_⟩
  calc text
    _ = Text.trimRight (text ++ pad) := by rw [Text.trimRight_append_blanks h.blanks, Text.trimRight_eq_self h.ends]
    _ = Text.trimRight (text' ++ pad') := by rw [hafter]
    _ = text' := by rw [Text.trimRight_append_blanks h'.blanks, Text.trimRight_eq_self h'.ends]

theorem eq_split (h : Cut raw indent text pad) : leading raw = indent ∧ rest raw = text := by
  obtain ⟨pad', hsplit⟩ := exists_cut raw
  exact hsplit.unique h

/-- the indentation is the longest run of indenting characters that the line begins with -/
theorem prefix_iff (h : Cut raw indent text pad) (s : Text) :
    s <+: indent ↔ s <+: raw ∧ ∀ c ∈ s, c ∈ indentChars := by
  constructor
  · intro hs
    refine ⟨?_, fun c hc => h.indents c (hs.subset hc)⟩
    rw [h.append]
    exact hs.trans (List.prefix_append _ _)
  · rintro ⟨hs, hall⟩
    rw [h.append] at hs
    rcases List.prefix_or_prefix_of_prefix hs (List.prefix_append indent _) with hs' | ⟨z, rfl⟩
    · exact hs'
    · -- a character of `s` beyond the indentation would stand where it stops
      cases z with
      | nil => simp
      | cons c z =>
        obtain ⟨left, hleft⟩ := (List.prefix_append_right_inj indent).1 hs
        have hhead : c ∈ (text ++ pad).head? := by
          rw [← hleft]
          rfl
        exact absurd (hall c (by simp)) (h.stops c hhead)

theorem text_eq_nil_iff (h : Cut raw indent text pad) : text = [] ↔ ∀ c ∈ raw, isBlank c = true := by
  constructor
  · rintro rfl c hc
    rw [h.append, List.nil_append, List.mem_append] at hc
    rcases hc with hc | hc
    · exact isBlank_of_mem_indentChars (h.indents c hc)
    · exact h.blanks c hc
  · intro hall
    by_contra hne
    have hlast := List.getLast?_eq_some_getLast hne
    have hmem : text.getLast hne ∈ raw := by
      rw [h.append]
      exact List.mem_append_right _ (List.mem_append_left _ (List.getLast_mem hne))
    have hblank := hall _ hmem
    rw [h.ends _ hlast] at hblank
    cases hblank

/-- the line with its indentation written out in spaces -/
theorem written (h : Cut raw indent text pad) (n : Nat) : Cut (Text.spaces n ++ text) (Text.spaces n) text [] := by
  refine ⟨?_, ?_, ?_, h.ends, ?_⟩
  · rw [List.append_nil]
  · intro c hc
    obtain rfl : c = ' ' := List.eq_of_mem_replicate hc
    exact List.mem_cons_self
  · intro c hc
    refine h.stops c ?_
    rw [List.append_nil] at hc
    rw [List.head?_append, Option.mem_def.1 hc]
    rfl
  · intro c hc
    cases hc

end Cut

/-- **Lines are cut and measured, and written out the same.** A line is its indentation, its text, and blanks: the
indentation is the longest run of the four indenting characters, the text does not end with a blank, and there is none just
if the line is blank. The width lies between the number of indenting characters and eight times as many; more characters
never make a run narrower, and a tab takes it to the next multiple of eight. With as many spaces for its indentation, the
line is cut into these spaces and the same text, and has the same width. -/
theorem line_normalizes (raw : Text) :
    let w := width (leading raw)
    let line := Text.spaces w ++ rest raw
    (∃ pad, Cut raw (leading raw) (rest raw) pad) ∧
      (∀ s, s <+: leading raw ↔ s <+: raw ∧ ∀ c ∈ s, c ∈ [' ', '\t', '\x0c', '\x0b']) ∧
      (rest raw = [] ↔ ∀ c ∈ raw, isBlank c = true) ∧
      (leading raw).length ≤ w ∧ w ≤ 8 * (leading raw).length ∧
      (∀ x y, width x ≤ width (x ++ y)) ∧
      (∀ x y z, width x ≤ width y → width (x ++ z) ≤ width (y ++ z)) ∧
      (∀ x, IsLeast {n | 8 ∣ n ∧ width x < n} (width (x ++ ['\t']))) ∧
      leading line = Text.spaces w ∧ rest line = rest raw ∧ width (leading line) = w := by
  intro w line
  obtain ⟨pad, hcut⟩ := exists_cut raw
  obtain ⟨hleading, hrest⟩ := (hcut.written w).eq_split
  refine ⟨⟨pad, hcut⟩, hcut.prefix_iff, hcut.text_eq_nil_iff, length_le_width _, width_le _, ?_, ?_, ?_, hleading, hrest, ?_⟩
  · intro x y
    exact Nat.le_trans (Nat.le_add_right _ _) (width_append_bounds x y).1
  · intro x y z h
    rw [width_append, width_append]
    exact foldl_advance_mono z h
  · intro x
    rw [width_append_tab]
    exact isLeast_advance_tab (width x)
  · rw [hleading]
    exact width_spaces w

/-- a tab after three columns, and a form feed after it; a no-break space does not indent, but is trimmed away -/
example : (leading "   \t\x0cx y\xa0 ", rest "   \t\x0cx y\xa0 ", width "   \t\x0c") =
    ("   \t\x0c".toList, "x y".toList, 9) := by
  decide

end Linewise.Indent
