/-
Texts without the blanks around them.

A text is its own trimmed form if a visible character stands at either end (`IsTrimmed`), and what trimming leaves of any
text is empty or such a text. Blanks put before or after a text are trimmed away again, and so are the line ends that a
line is read with.
-/
import Linewise.Text.Blank
import Linewise.Text.Newline
import Mathlib.Data.List.TakeWhile
import Mathlib.Tactic.SplitIfs

namespace Linewise.Text

/-! ## The end of a text -/

theorem trimRight_concat {c : Char} (h : isBlank c = false) (t : Text) : trimRight (t ++ [c]) = t ++ [c] := by
  simp [trimRight, dropEndWhile, h]

/-- a text that does not end with a blank stays as it is -/
theorem trimRight_eq_self {t : Text} (h : ∀ c ∈ t.getLast?, isBlank c = false) : trimRight t = t := by
  rcases List.eq_nil_or_concat t with rfl | ⟨t, c, rfl⟩
  · rfl
  · rw [List.concat_eq_append] at h ⊢
    exact trimRight_concat (h c List.getLast?_concat) t

theorem dropEndWhile_append_of_pos {p : Char → Bool} {pad : Text} (h : ∀ c ∈ pad, p c = true) (t : Text) :
    dropEndWhile p (t ++ pad) = dropEndWhile p t := by
  rw [dropEndWhile, List.reverse_append, List.dropWhile_append_of_pos fun c hc => h c (List.mem_reverse.1 hc),
    dropEndWhile]

theorem trimRight_append_blanks {pad : Text} (h : ∀ c ∈ pad, isBlank c = true) (t : Text) :
    trimRight (t ++ pad) = trimRight t :=
  dropEndWhile_append_of_pos h t

/-- all that is trimmed away at the end is blank -/
theorem exists_append_eq_trimRight (t : Text) : ∃ pad, t = trimRight t ++ pad ∧ ∀ c ∈ pad, isBlank c = true :=
  ⟨takeEndWhile isBlank t, (dropEndWhile_append_takeEndWhile isBlank t).symm, fun _ hc =>
    List.mem_takeWhile_imp (List.mem_reverse.1 hc)⟩

/-- trimming the end of a text first changes nothing, whatever stands before it -/
theorem trimRight_append_trimRight (s t : Text) : trimRight (s ++ trimRight t) = trimRight (s ++ t) := by
  obtain ⟨pad, ht, hpad⟩ := exists_append_eq_trimRight t
  calc trimRight (s ++ trimRight t)
    _ = trimRight (s ++ trimRight t ++ pad) := (trimRight_append_blanks hpad _).symm
    _ = trimRight (s ++ t) := by rw [List.append_assoc, ← ht]

/-- what is left ends with a visible character -/
theorem isBlank_of_mem_getLast?_trimRight {t : Text} : ∀ c ∈ (trimRight t).getLast?, isBlank c = false := by
  intro c hc
  rw [trimRight, dropEndWhile, List.getLast?_reverse] at hc
  have hhead := List.head?_dropWhile_not isBlank t.reverse
  rw [Option.mem_def.1 hc] at hhead
  exact hhead

/-! ## Both ends of a text -/

/-- a visible character stands at either end of the text -/
structure IsTrimmed (t : Text) : Prop where
  head : ∃ c ∈ t.head?, isBlank c = false
  last : ∃ c ∈ t.getLast?, isBlank c = false

theorem IsTrimmed.ne_nil {t : Text} (h : IsTrimmed t) : t ≠ [] := by
  rintro rfl
  obtain ⟨c, hc, -⟩ := h.head
  cases hc

theorem trimLeft_of_head {t : Text} (h : ∃ c ∈ t.head?, isBlank c = false) : trimLeft t = t := by
  obtain ⟨c, hc, hblank⟩ := h
  obtain ⟨rest, rfl⟩ := List.head?_eq_some_iff.1 (Option.mem_def.1 hc)
  rw [trimLeft, List.dropWhile_cons_of_neg (by rw [hblank]; exact Bool.noConfusion)]

theorem IsTrimmed.trim_eq {t : Text} (h : IsTrimmed t) : trim t = t := by
  obtain ⟨c, hc, hblank⟩ := h.last
  obtain ⟨rest, hrest⟩ := List.getLast?_eq_some_iff.1 (Option.mem_def.1 hc)
  rw [trim, trimLeft_of_head h.head, hrest, trimRight_concat hblank]

theorem trim_blanks_append {pad : Text} (h : ∀ c ∈ pad, isBlank c = true) (t : Text) : trim (pad ++ t) = trim t := by
  rw [trim, trimLeft, List.dropWhile_append_of_pos h, trim, trimLeft]

theorem trim_append_blanks {pad : Text} (h : ∀ c ∈ pad, isBlank c = true) (t : Text) : trim (t ++ pad) = trim t := by
  rw [trim, trimLeft, List.dropWhile_append]
  split_ifs with hnone
  · have hpad : pad.dropWhile isBlank = [] := List.dropWhile_eq_nil_iff.2 h
    rw [hpad, trim, trimLeft, List.isEmpty_iff.1 hnone]
  · exact trimRight_append_blanks h _

theorem mem_trim {t : Text} {c : Char} (hc : c ∈ t) (hblank : isBlank c = false) : c ∈ trim t := by
  have hnot : isBlank c ≠ true := by rw [hblank]; exact Bool.noConfusion
  have hleft : c ∈ trimLeft t := by
    rw [← List.takeWhile_append_dropWhile (p := isBlank) (l := t), List.mem_append] at hc
    exact hc.resolve_left fun h => hnot (List.mem_takeWhile_imp h)
  obtain ⟨pad, hsplit, hpad⟩ := exists_append_eq_trimRight (trimLeft t)
  rw [hsplit, List.mem_append] at hleft
  exact hleft.resolve_right fun h => hnot (hpad c h)

theorem trim_subset (t : Text) : trim t ⊆ t := by
  intro c hc
  have hleft : c ∈ trimLeft t := by
    rw [← dropEndWhile_append_takeEndWhile isBlank (trimLeft t)]
    exact List.mem_append_left _ hc
  exact List.dropWhile_subset _ hleft

/-- what trimming leaves, if anything -/
theorem isTrimmed_trim {t : Text} (h : trim t ≠ []) : IsTrimmed (trim t) := by
  obtain ⟨pad, hsplit, hpad⟩ := exists_append_eq_trimRight (trimLeft t)
  constructor
  · obtain ⟨c, rest, hcons⟩ := List.exists_cons_of_ne_nil h
    have hhead : (t.dropWhile isBlank).head? = some c := by
      show (trimLeft t).head? = some c
      rw [hsplit]
      show (trim t ++ pad).head? = some c
      rw [hcons]
      rfl
    have hnot := List.head?_dropWhile_not isBlank t
    rw [hhead] at hnot
    exact ⟨c, by rw [hcons]; rfl, hnot⟩
  · have hlast := List.getLast?_eq_some_getLast h
    exact ⟨_, hlast, isBlank_of_mem_getLast?_trimRight _ hlast⟩

/-- the line end is trimmed away with the other blanks -/
theorem trim_chomp (line : Text) : trim line.chomp = trim line := by
  have hend : ∀ c ∈ takeEndWhile (fun c => c == '\r' || c == '\n') line, isBlank c = true := by
    intro c hc
    have hreturn := List.mem_takeWhile_imp (p := fun c => c == '\r' || c == '\n') (List.mem_reverse.1 hc)
    rcases Bool.or_eq_true_iff.1 hreturn with h | h <;> rw [beq_iff_eq.1 h] <;> decide
  calc trim line.chomp
    _ = trim (line.chomp ++ takeEndWhile (fun c => c == '\r' || c == '\n') line) := (trim_append_blanks hend _).symm
    _ = trim line := by rw [chomp, dropEndWhile_append_takeEndWhile]

end Linewise.Text
