/-
Runs of word characters.

A text is a sequence of chunks, each a run of word characters or another character, and where no run goes on from one
text into the next its chunks are those of both (`chunks_append`). `runs` are the runs alone; `mapRuns` puts a function to
work on each of them and leaves the other characters, and one such pass after another is a single pass
(`mapRuns_mapRuns`), since nothing that is put in the place of a run joins the runs around it.
-/
import Linewise.Text.Basic
import Linewise.Text.Word
import Mathlib.Data.List.TakeWhile

namespace Linewise

/-! ## Words -/

/-- the text does not begin with a word character -/
def BeginsApart (t : Text) : Prop := t.head?.any isWordChar = false

theorem BeginsApart.of_mem {t : Text} (h : BeginsApart t) : ∀ c ∈ t.head?, isWordChar c = false := by
  intro c hc
  rwa [BeginsApart, Option.mem_def.1 hc] at h

theorem beginsApart_dropWhile (t : Text) : BeginsApart (t.dropWhile isWordChar) := by
  have hhead := List.head?_dropWhile_not isWordChar t
  rw [BeginsApart]
  cases h : (t.dropWhile isWordChar).head? with
  | none => rfl
  | some d => simpa [h] using hhead

/-- no run of word characters goes on from one text into the next -/
def Apart (x y : Text) : Prop := x.getLast?.any isWordChar = false ∨ BeginsApart y

/-- the text is a word: a run of word characters that is not empty -/
structure IsWord (w : Text) : Prop where
  ne_nil : w ≠ []
  all_word : ∀ c ∈ w, isWordChar c = true

instance : DecidablePred IsWord := fun w =>
  decidable_of_iff (w ≠ [] ∧ w.all isWordChar = true)
    ⟨fun h => ⟨h.1, List.all_eq_true.1 h.2⟩, fun h => ⟨h.ne_nil, List.all_eq_true.2 h.all_word⟩⟩

/-! ## Chunks -/

/-- a text is empty, or begins with another character or with a word that ends there -/
@[elab_as_elim]
theorem run_induction {motive : Text → Prop} (nil : motive [])
    (other : ∀ c t, isWordChar c = false → motive t → motive (c :: t))
    (word : ∀ w t, IsWord w → BeginsApart t → motive t → motive (w ++ t)) (t : Text) : motive t := by
  induction hn : t.length using Nat.strongRecOn generalizing t with
  | ind n ih =>
    subst hn
    cases t with
    | nil => exact nil
    | cons c rest =>
      by_cases hc : isWordChar c = true
      · have hword : IsWord (c :: rest.takeWhile isWordChar) :=
          ⟨List.cons_ne_nil c _, List.forall_mem_cons.2 ⟨hc, fun d hd => List.mem_takeWhile_imp hd⟩⟩
        have hrest := word _ _ hword (beginsApart_dropWhile rest) (ih _ (Nat.lt_succ_of_le (List.length_dropWhile_le _ _)) _ rfl)
        rwa [List.cons_append, List.takeWhile_append_dropWhile] at hrest
      · exact other c rest (Bool.not_eq_true _ ▸ hc) (ih _ (Nat.lt_succ_self _) _ rfl)

theorem IsWord.reverse {w : Text} (hw : IsWord w) : IsWord w.reverse :=
  ⟨mt List.reverse_eq_nil_iff.1 hw.ne_nil, fun c hc => hw.all_word c (List.mem_reverse.1 hc)⟩

theorem IsWord.notMem {w : Text} {c : Char} (hw : IsWord w) (hc : isWordChar c = false) : c ∉ w := by
  intro hmem
  rw [hw.all_word c hmem] at hc
  cases hc

theorem IsWord.head?_append {w : Text} (hw : IsWord w) (t : Text) : (w ++ t).head?.any isWordChar = true := by
  obtain ⟨hne, hall⟩ := hw
  obtain ⟨c, w, rfl⟩ := List.exists_cons_of_ne_nil hne
  exact hall c List.mem_cons_self

/-- a piece of a text: a run of word characters, or another character -/
inductive Chunk where
  | other (c : Char)
  | word (w : Text)
deriving DecidableEq, Repr

/-- the runs of word characters of a text and the characters between them, in order -/
def chunks : Text → List Chunk
  | [] => []
  | c :: rest =>
    if isWordChar c = true then .word (c :: rest.takeWhile isWordChar) :: chunks (rest.dropWhile isWordChar)
    else .other c :: chunks rest
termination_by t => t.length
decreasing_by
  · exact Nat.lt_succ_of_le (List.length_dropWhile_le _ _)
  · exact Nat.lt_succ_self _

@[simp] theorem chunks_nil : chunks [] = [] := by rw [chunks]

theorem chunks_other {c : Char} (t : Text) (h : isWordChar c = false) : chunks (c :: t) = .other c :: chunks t := by
  rw [chunks, if_neg (by rw [h]; exact Bool.noConfusion)]

theorem chunks_word {w t : Text} (hw : IsWord w) (ht : BeginsApart t) : chunks (w ++ t) = .word w :: chunks t := by
  obtain ⟨hne, hall⟩ := hw
  obtain ⟨c, w, rfl⟩ := List.exists_cons_of_ne_nil hne
  have hw : ∀ d ∈ w, isWordChar d = true := fun d hd => hall d (List.mem_cons_of_mem c hd)
  have htake : (w ++ t).takeWhile isWordChar = w ∧ (w ++ t).dropWhile isWordChar = t := by
    rw [List.takeWhile_append_of_pos hw, List.dropWhile_append_of_pos hw]
    cases t with
    | nil => simp
    | cons d t =>
      have hd : isWordChar d = false := ht
      simp [hd]
  rw [List.cons_append, chunks, if_pos (hall c List.mem_cons_self), htake.1, htake.2]

theorem Apart.of_append {s t y : Text} (h : Apart (s ++ t) y) : Apart t y := by
  refine h.imp_left fun hlast => ?_
  rw [List.getLast?_append] at hlast
  cases hx : t.getLast? with
  | none => rfl
  | some x => rwa [hx] at hlast

/-- the chunks of a text are those before and those after a place where no run goes on -/
theorem chunks_append {x y : Text} (h : Apart x y) : chunks (x ++ y) = chunks x ++ chunks y := by
  induction x using run_induction with
  | nil => simp
  | other c t hc ih =>
    rw [List.cons_append, chunks_other _ hc, chunks_other _ hc, ih (h.of_append (s := [c])), List.cons_append]
  | word w t hw ht ih =>
    have hapart : BeginsApart (t ++ y) := by
      cases t with
      | nil =>
        refine h.resolve_left ?_
        rw [List.append_nil, List.getLast?_eq_some_getLast hw.ne_nil, Option.any_some,
          hw.all_word _ (List.getLast_mem hw.ne_nil)]
        exact Bool.noConfusion
      | cons d t => exact ht
    rw [List.append_assoc, chunks_word hw hapart, chunks_word hw ht, ih h.of_append, List.cons_append]

/-! ## The runs alone -/

/-- the runs of word characters of a text, in order -/
def runs (t : Text) : List Text :=
  (chunks t).filterMap fun
    | .other _ => none
    | .word w => some w

theorem runs_append {x y : Text} (h : Apart x y) : runs (x ++ y) = runs x ++ runs y := by
  rw [runs, chunks_append h, List.filterMap_append]
  rfl

@[simp] theorem runs_nil : runs [] = [] := by
  rw [runs, chunks_nil]
  rfl

theorem runs_other {c : Char} (t : Text) (h : isWordChar c = false) : runs (c :: t) = runs t := by
  rw [runs, chunks_other t h]
  rfl

theorem runs_word {w t : Text} (hw : IsWord w) (ht : BeginsApart t) : runs (w ++ t) = w :: runs t := by
  rw [runs, chunks_word hw ht]
  rfl

@[simp] theorem runs_isWord {w : Text} (hw : IsWord w) : runs w = [w] := by
  simpa using runs_word (t := []) hw rfl

/-- a word that stands between other characters is a run -/
theorem mem_runs_of_between {x w y : Text} (hw : IsWord w) (hx : x.getLast?.any isWordChar = false)
    (hy : BeginsApart y) : w ∈ runs (x ++ (w ++ y)) := by
  rw [runs_append (.inl hx), runs_word hw hy]
  exact List.mem_append_right _ List.mem_cons_self

/-! ## A function on each run -/

/-- `f` on a run, and another character as it is -/
def Chunk.mapped (f : Text → Text) : Chunk → Text
  | .other c => [c]
  | .word w => f w

/-- `f` on each run of word characters, and the other characters as they are -/
def mapRuns (f : Text → Text) (t : Text) : Text := (chunks t).flatMap (Chunk.mapped f)

variable {f g : Text → Text}

@[simp] theorem mapRuns_nil : mapRuns f [] = [] := by
  rw [mapRuns, chunks_nil]
  rfl

theorem mapRuns_other {c : Char} (t : Text) (h : isWordChar c = false) : mapRuns f (c :: t) = c :: mapRuns f t := by
  rw [mapRuns, chunks_other t h]
  rfl

theorem mapRuns_word {w t : Text} (hw : IsWord w) (ht : BeginsApart t) : mapRuns f (w ++ t) = f w ++ mapRuns f t := by
  rw [mapRuns, chunks_word hw ht]
  rfl

@[simp] theorem mapRuns_isWord {w : Text} (hw : IsWord w) : mapRuns f w = f w := by
  simpa using mapRuns_word (f := f) (t := []) hw rfl

/-- a function on runs can be applied on either side of a place where no run goes on -/
theorem mapRuns_append {x y : Text} (h : Apart x y) : mapRuns f (x ++ y) = mapRuns f x ++ mapRuns f y := by
  rw [mapRuns, chunks_append h, List.flatMap_append]
  rfl

theorem BeginsApart.mapRuns {t : Text} (h : BeginsApart t) : BeginsApart (mapRuns f t) := by
  cases t with
  | nil => rwa [mapRuns_nil]
  | cons c t =>
    have hc : isWordChar c = false := h
    rwa [mapRuns_other t hc]

/-- nothing that `f` puts in the place of a run joins the runs around it -/
theorem mapRuns_mapRuns (f g : Text → Text) (t : Text) :
    mapRuns g (mapRuns f t) = mapRuns (fun w => mapRuns g (f w)) t := by
  induction t using run_induction with
  | nil => simp
  | other c t hc ih => rw [mapRuns_other _ hc, mapRuns_other _ hc, mapRuns_other _ hc, ih]
  | word w t hw ht ih => rw [mapRuns_word hw ht, mapRuns_word hw ht, mapRuns_append (.inr ht.mapRuns), ih]

theorem mapRuns_congr (h : ∀ w, IsWord w → f w = g w) (t : Text) : mapRuns f t = mapRuns g t := by
  induction t using run_induction with
  | nil => simp
  | other c t hc ih => rw [mapRuns_other _ hc, mapRuns_other _ hc, ih]
  | word w t hw ht ih => rw [mapRuns_word hw ht, mapRuns_word hw ht, ih, h w hw]

theorem mapRuns_eq_self {t : Text} (h : ∀ w ∈ runs t, f w = w) : mapRuns f t = t := by
  induction t using run_induction with
  | nil => simp
  | other c t hc ih =>
    rw [runs_other t hc] at h
    rw [mapRuns_other _ hc, ih h]
  | word w t hw ht ih =>
    rw [runs_word hw ht] at h
    obtain ⟨hf, h⟩ := List.forall_mem_cons.1 h
    rw [mapRuns_word hw ht, ih h, hf]

end Linewise
