/-
Texts put together from pieces with a separator between them, and cut into such pieces again.
-/
import Linewise.Text.Basic
import Mathlib.Data.List.Infix

namespace Linewise.Text

theorem splitOn_eq (sep : Char) (t : Text) : splitOn sep t = List.splitOn sep t := by
  induction t with
  | nil => rfl
  | cons c rest ih =>
    rw [splitOn, ih, List.splitOn_eq_splitOnP, List.splitOn_eq_splitOnP, List.splitOnP_cons_eq_if_modifyHead]
    by_cases hc : c = sep
    · simp [hc]
    · rw [if_neg hc, if_neg (by simpa using hc)]
      cases hrest : List.splitOnP (· == sep) rest with
      | nil => exact absurd hrest (by simp)
      | cons piece pieces => rfl

/-- no piece holds the separator -/
theorem notMem_of_mem_splitOn {sep : Char} {t piece : Text} (h : piece ∈ splitOn sep t) : sep ∉ piece := by
  induction t generalizing piece with
  | nil =>
    obtain rfl := List.mem_singleton.1 h
    exact List.not_mem_nil
  | cons c rest ih =>
    rw [splitOn] at h
    by_cases hc : c = sep
    · rw [if_pos hc] at h
      rcases List.mem_cons.1 h with rfl | hmore
      · exact List.not_mem_nil
      · exact ih hmore
    · rw [if_neg hc] at h
      cases hrest : splitOn sep rest with
      | nil => exact absurd hrest (splitOn_ne_nil sep rest)
      | cons first pieces =>
        rw [hrest] at h ih
        rcases List.mem_cons.1 h with rfl | hmore
        · exact List.not_mem_cons_of_ne_of_not_mem (Ne.symm hc) (ih List.mem_cons_self)
        · exact ih (List.mem_cons_of_mem _ hmore)

theorem join_cons_of_ne {sep piece : Text} {pieces : List Text} (h : pieces ≠ []) :
    join sep (piece :: pieces) = piece ++ sep ++ join sep pieces := by
  cases pieces with
  | nil => exact absurd rfl h
  | cons next more => exact List.intercalate_cons_cons

theorem join_singleton (sep piece : Text) : join sep [piece] = piece := by simp [join]

theorem join_append {sep : Text} {ps qs : List Text} (hps : ps ≠ []) (hqs : qs ≠ []) :
    join sep (ps ++ qs) = join sep ps ++ sep ++ join sep qs := by
  induction ps with
  | nil => exact absurd rfl hps
  | cons p rest ih =>
    cases rest with
    | nil => rw [List.singleton_append, join_cons_of_ne hqs, join_singleton]
    | cons next more =>
      rw [List.cons_append, join_cons_of_ne (List.append_ne_nil_of_left_ne_nil (List.cons_ne_nil next more) qs),
        ih (List.cons_ne_nil next more), join_cons_of_ne (List.cons_ne_nil next more)]
      simp only [List.append_assoc]

/-- joining several lists of pieces at once, and each of them first -/
theorem join_flatMap {α : Type} {sep : Text} {f : α → List Text} {xs : List α} (h : ∀ x ∈ xs, f x ≠ []) :
    join sep (xs.flatMap f) = join sep (xs.map fun x => join sep (f x)) := by
  induction xs with
  | nil => rfl
  | cons x rest ih =>
    obtain ⟨hx, hrest⟩ := List.forall_mem_cons.1 h
    cases rest with
    | nil => simp [join_singleton]
    | cons next more =>
      have hsome : (next :: more).flatMap f ≠ [] := by
        rw [List.flatMap_cons]
        exact List.append_ne_nil_of_left_ne_nil (hrest next List.mem_cons_self) _
      rw [List.flatMap_cons, join_append hx hsome, ih hrest]
      exact (join_cons_of_ne (List.cons_ne_nil _ _)).symm

/-- a text has no separator, or is a first piece, a separator, and a text of which the same can be said -/
@[elab_as_elim]
theorem separated_induction (sep : Char) {motive : Text → Prop} (piece : ∀ t, sep ∉ t → motive t)
    (cut : ∀ x y, sep ∉ x → motive y → motive (x ++ sep :: y)) (t : Text) : motive t := by
  induction hn : t.length using Nat.strongRecOn generalizing t with
  | ind n ih =>
    subst hn
    by_cases hsep : sep ∈ t
    · obtain ⟨x, y, rfl, hx⟩ := List.eq_append_cons_of_mem hsep
      refine cut x y hx (ih y.length ?_ y rfl)
      simp only [List.length_append, List.length_cons]
      omega
    · exact piece t hsep

/-- leaving pieces out leaves characters out -/
theorem join_filter_sublist (sep : Text) (p : Text → Bool) (pieces : List Text) :
    (join sep (pieces.filter p)).Sublist (join sep pieces) := by
  induction pieces with
  | nil => exact List.Sublist.refl _
  | cons piece rest ih =>
    have hrest : (join sep rest).Sublist (join sep (piece :: rest)) := by
      by_cases hnil : rest = []
      · rw [hnil]
        exact List.nil_sublist _
      · rw [join_cons_of_ne hnil]
        exact List.sublist_append_right _ _
    by_cases hp : p piece = true
    · rw [List.filter_cons_of_pos hp]
      by_cases hnone : rest.filter p = []
      · rw [hnone, join_singleton]
        by_cases hnil : rest = []
        · rw [hnil, join_singleton]
        · rw [join_cons_of_ne hnil, List.append_assoc]
          exact List.sublist_append_left _ _
      · have hnil : rest ≠ [] := by
          rintro rfl
          exact hnone rfl
        rw [join_cons_of_ne hnone, join_cons_of_ne hnil]
        exact (List.Sublist.refl _).append ih
    · rw [List.filter_cons_of_neg hp]
      exact ih.trans hrest

theorem mem_join {x : Char} {sep : Text} {pieces : List Text} (h : x ∈ join sep pieces) :
    x ∈ sep ∨ ∃ piece ∈ pieces, x ∈ piece := by
  induction pieces with
  | nil => cases h
  | cons first rest ih =>
    cases rest with
    | nil => exact .inr ⟨first, List.mem_singleton_self first, by rwa [join_singleton] at h⟩
    | cons second more =>
      rw [join_cons_of_ne (List.cons_ne_nil second more), List.mem_append, List.mem_append] at h
      rcases h with (hfirst | hsep) | hmore
      · exact .inr ⟨first, List.mem_cons_self, hfirst⟩
      · exact .inl hsep
      · rcases ih hmore with hsep | ⟨piece, hpiece, hx⟩
        · exact .inl hsep
        · exact .inr ⟨piece, List.mem_cons_of_mem first hpiece, hx⟩

end Linewise.Text
