/-
Patterns in sequence, and the runs of characters in them.

The fixed patterns of the library are sequences of single characters, of runs of characters of a set, of groups around
these, and of anchors. `run_star_one` does away with the bounded rounds for a run: a greedy repetition of one character
takes the longest run first and then gives characters back one by one. The lemmas named `isSome` say when a sequence
matches at all, as a way to cut the text; those named `eq_some` follow one cut of the text to what the match finds.
-/
import Linewise.Pattern.Matcher

namespace Linewise

/-! ## Classes of characters -/

/-- the code points that the bounds include -/
def codesIn : List Nat → List Nat
  | lo :: hi :: rest => List.range' lo (hi - lo) ++ codesIn rest
  | _ => []

theorem mem_codesIn {bounds : List Nat} {n : Nat} (h : inBounds bounds n = true) : n ∈ codesIn bounds := by
  fun_induction inBounds bounds n with
  | case1 => cases h
  | case2 lo hi rest n hlo hhi => exact List.mem_append_left _ (List.mem_range'_1.2 (by omega))
  | case3 lo hi rest n hlo hhi ih => exact List.mem_append_right _ (ih h)
  | case4 => cases h

/-- no blank is a word character -/
theorem isWordChar_of_isBlank {c : Char} (h : isBlank c = true) : isWordChar c = false := by
  have hblanks : ∀ n ∈ codesIn blankBounds, isWordChar (Char.ofNat n) = false := by decide +kernel
  have hc := hblanks _ (mem_codesIn h)
  rwa [Char.ofNat_toNat] at hc

/-- a text has one longest run of a class at its start -/
theorem eq_of_longest_run {p : Char → Bool} {s t x y : Text} (h : s ++ x = t ++ y) (hs : ∀ c ∈ s, p c = true)
    (hx : ∀ c ∈ x.head?, p c = false) (ht : ∀ c ∈ t, p c = true) (hy : ∀ c ∈ y.head?, p c = false) :
    s = t ∧ x = y := by
  have hstop : ∀ {z : Text}, (∀ c ∈ z.head?, p c = false) → z.takeWhile p = [] := by
    intro z hz
    cases z with
    | nil => rfl
    | cons c z => rw [List.takeWhile_cons, if_neg (by rw [hz c rfl]; exact Bool.noConfusion)]
  have htake := congrArg (List.takeWhile p) h
  rw [List.takeWhile_append_of_pos hs, List.takeWhile_append_of_pos ht, hstop hx, hstop hy, List.append_nil,
    List.append_nil] at htake
  subst htake
  exact ⟨rfl, List.append_cancel_left h⟩

namespace Pattern

variable (k : Found → Option Found)

/-! ## Sequences -/

theorem run_group (index : Nat) (p : Pattern) (f : Found) :
    run (.group index p) k f =
      run p (fun g => k { g with groups := (index, f.place.upTo g.place) :: g.groups }) f := by
  rw [run]

theorem run_greedy (p : Pattern) (least : Nat) (most : Option Nat) (f : Found) :
    run (.many p least most .greedy) k f =
      greedyRounds (fun j g => run p j g) least most k (rounds least f) 0 none f := by
  rw [run]

theorem run_ofList_cons (p : Pattern) (ps : List Pattern) (f : Found) :
    run (.ofList (p :: ps)) k f = run p (run (.ofList ps) k) f := by
  cases ps with
  | nil =>
    have hempty : run (.ofList []) k = k := funext fun g => run_empty k g
    rw [hempty]
    rfl
  | cons q ps => exact run_cat k f p (.ofList (q :: ps))

/-! ## Runs of characters -/

/-- `k` after as many characters of the set as there are, else after one fewer, and so on -/
def longestFirst (set : CharSet) (fold : Fold) (groups : List (Nat × Text)) :
    List Char → List Char → Option Found
  | before, [] => k ⟨⟨before, []⟩, groups⟩
  | before, c :: rest =>
    if set.contains fold c then
      (longestFirst set fold groups (c :: before) rest).or (k ⟨⟨before, c :: rest⟩, groups⟩)
    else k ⟨⟨before, c :: rest⟩, groups⟩

/-- no round consumes nothing, so the text ends before the rounds do -/
theorem greedyRounds_one (set : CharSet) (fold : Fold) (groups : List (Nat × Text)) {least count fuel : Nat}
    {last : Option Nat} {before after : List Char} (hcount : least ≤ count) (hfuel : after.length < fuel)
    (hlast : last ≠ some before.length) :
    greedyRounds (fun j g => run (.one set fold) j g) least none k fuel count last ⟨⟨before, after⟩, groups⟩ =
      longestFirst k set fold groups before after := by
  induction after generalizing before count fuel last with
  | nil =>
    obtain ⟨fuel, rfl⟩ : ∃ n, fuel = n + 1 := ⟨fuel - 1, by omega⟩
    have hroom : (hasRoom count none && last != some before.length) = true := by simp [hasRoom, hlast]
    rw [greedyRounds, if_neg (by omega), Place.offset, if_pos hroom, run_one_nil, Option.none_or, longestFirst]
  | cons c rest ih =>
    rw [List.length_cons] at hfuel
    obtain ⟨fuel, rfl⟩ : ∃ n, fuel = n + 1 := ⟨fuel - 1, by omega⟩
    have hroom : (hasRoom count none && last != some before.length) = true := by simp [hasRoom, hlast]
    have hnext : some before.length ≠ some (c :: before).length := by simp
    rw [greedyRounds, if_neg (by omega), Place.offset, if_pos hroom, run_one_cons, longestFirst]
    split
    · rw [ih (by omega) (by omega) hnext]
    · rw [Option.none_or]

theorem run_star_one (set : CharSet) (fold : Fold) (f : Found) :
    run (star (.one set fold)) k f = longestFirst k set fold f.groups f.place.before f.place.after := by
  obtain ⟨⟨before, after⟩, groups⟩ := f
  rw [star, run_greedy, rounds]
  exact greedyRounds_one k set fold groups (Nat.zero_le 0) (by simp only; omega) (by simp)

/-- a run that is not empty is one character and a run -/
theorem run_plus_one (set : CharSet) (fold : Fold) (f : Found) :
    run (plus (.one set fold)) k f =
      run (.one set fold) (run (star (.one set fold)) k) f := by
  obtain ⟨⟨before, after⟩, groups⟩ := f
  have hrounds : rounds 1 ⟨⟨before, after⟩, groups⟩ = after.length + 2 + 1 := by
    show 1 + after.length + 2 = _
    omega
  rw [plus, run_greedy, hrounds, greedyRounds, if_pos Nat.zero_lt_one]
  cases after with
  | nil => rw [run_one_nil, run_one_nil]
  | cons c rest =>
    rw [run_one_cons, run_one_cons, run_star_one]
    split
    · exact greedyRounds_one k set fold groups (Nat.le_refl 1) (by simp only [List.length_cons]; omega) (by simp)
    · rfl

/-! ## When a sequence matches -/

theorem isSome_longestFirst_iff {set : CharSet} {fold : Fold} {groups : List (Nat × Text)}
    {before after : List Char} :
    (longestFirst k set fold groups before after).isSome = true ↔
      ∃ taken left, after = taken ++ left ∧ (∀ c ∈ taken, set.contains fold c = true) ∧
        (k ⟨⟨taken.reverse ++ before, left⟩, groups⟩).isSome = true := by
  induction after generalizing before with
  | nil =>
    rw [longestFirst]
    constructor
    · intro h
      exact ⟨[], [], rfl, by simp, h⟩
    · rintro ⟨taken, left, hcut, -, h⟩
      obtain ⟨rfl, rfl⟩ := List.append_eq_nil_iff.1 hcut.symm
      exact h
  | cons c rest ih =>
    rw [longestFirst]
    -- either nothing is taken, or the first character is, and the rest goes on from there
    have hcut : (∃ taken left, c :: rest = taken ++ left ∧ (∀ d ∈ taken, set.contains fold d = true) ∧
        (k ⟨⟨taken.reverse ++ before, left⟩, groups⟩).isSome = true) ↔
        (set.contains fold c = true ∧
          (longestFirst k set fold groups (c :: before) rest).isSome = true) ∨
          (k ⟨⟨before, c :: rest⟩, groups⟩).isSome = true := by
      constructor
      · rintro ⟨taken, left, hcut, hall, h⟩
        cases taken with
        | nil =>
          obtain rfl : c :: rest = left := hcut
          exact .inr h
        | cons d taken =>
          obtain ⟨rfl, rfl⟩ := List.cons.inj hcut
          refine .inl ⟨hall c List.mem_cons_self, ih.2 ⟨taken, left, rfl, fun d hd => hall d (List.mem_cons_of_mem c hd), ?_⟩⟩
          simpa using h
      · rintro (⟨hc, hmore⟩ | h)
        · obtain ⟨taken, left, rfl, hall, h⟩ := ih.1 hmore
          refine ⟨c :: taken, left, rfl, ?_, by simpa using h⟩
          intro d hd
          rcases List.mem_cons.1 hd with rfl | hd
          · exact hc
          · exact hall d hd
        · exact ⟨[], c :: rest, rfl, by simp, h⟩
    rw [hcut]
    by_cases hc : set.contains fold c = true
    · simp [hc, Option.isSome_or]
    · simp [hc]

variable {k}

/-- a run of characters of the set, perhaps empty -/
theorem isSome_star_iff {set : CharSet} {fold : Fold} {f : Found} :
    (run (star (.one set fold)) k f).isSome = true ↔
      ∃ taken left, f.place.after = taken ++ left ∧ (∀ c ∈ taken, set.contains fold c = true) ∧
        (k ⟨⟨taken.reverse ++ f.place.before, left⟩, f.groups⟩).isSome = true := by
  rw [run_star_one, isSome_longestFirst_iff]

/-- a run of characters of the set that is not empty -/
theorem isSome_plus_iff {set : CharSet} {fold : Fold} {f : Found} :
    (run (plus (.one set fold)) k f).isSome = true ↔
      ∃ taken left, f.place.after = taken ++ left ∧ taken ≠ [] ∧ (∀ c ∈ taken, set.contains fold c = true) ∧
        (k ⟨⟨taken.reverse ++ f.place.before, left⟩, f.groups⟩).isSome = true := by
  obtain ⟨⟨before, after⟩, groups⟩ := f
  rw [run_plus_one]
  cases after with
  | nil =>
    rw [run_one_nil]
    constructor
    · intro h
      cases h
    · rintro ⟨taken, left, hcut, htaken, -⟩
      exact absurd (List.append_eq_nil_iff.1 hcut.symm).1 htaken
  | cons c rest =>
    rw [run_one_cons]
    constructor
    · intro h
      split at h
      · rename_i hc
        obtain ⟨taken, left, hcut, hall, h⟩ := isSome_star_iff.1 h
        refine ⟨c :: taken, left, congrArg (c :: ·) hcut, List.cons_ne_nil c taken, ?_, by simpa using h⟩
        exact List.forall_mem_cons.2 ⟨hc, hall⟩
      · cases h
    · rintro ⟨taken, left, hcut, htaken, hall, h⟩
      cases taken with
      | nil => exact absurd rfl htaken
      | cons d taken =>
        obtain ⟨rfl, hrest⟩ := List.cons.inj hcut
        obtain ⟨hc, hall⟩ := List.forall_mem_cons.1 hall
        rw [if_pos hc]
        exact isSome_star_iff.2 ⟨taken, left, hrest, hall, by simpa using h⟩

theorem isSome_char_iff {c : Char} {f : Found} :
    (run (.char c) k f).isSome = true ↔
      ∃ left, f.place.after = c :: left ∧ (k ⟨⟨c :: f.place.before, left⟩, f.groups⟩).isSome = true := by
  obtain ⟨⟨before, after⟩, groups⟩ := f
  cases after with
  | nil =>
    rw [char, run_one_nil]
    simp
  | cons d rest =>
    rw [char, run_one_cons, CharSet.contains_single]
    by_cases h : d = c
    · simp [h]
    · simp [h]

theorem isWordAt_false (cs : List Char) : isWordAt false cs = cs.head?.any isWordChar := by
  cases cs <;> rfl

/-- a word boundary: a word character on exactly one side -/
theorem run_wordBoundary (f : Found) :
    run wordBoundary k f =
      if f.place.before.head?.any isWordChar != f.place.after.head?.any isWordChar then k f else none := by
  rw [wordBoundary, run_anchor, Anchor.holds, isWordAt_false, isWordAt_false]

/-- the character `c` does not stand right before the place -/
theorem run_notBehind_char (c : Char) (f : Found) :
    run (.behind 1 true (char c)) k f = if f.place.before.head? = some c then none else k f := by
  obtain ⟨⟨before, after⟩, groups⟩ := f
  rw [run]
  cases before with
  | nil => rfl
  | cons d rest =>
    simp only [Place.back?, char, run_one_cons, CharSet.contains_single, List.head?_cons, Option.some.injEq]
    by_cases h : d = c
    · simp [h]
    · simp [h]

theorem isSome_anchor_iff {a : Anchor} {f : Found} :
    (run (.anchor a) k f).isSome = true ↔ a.holds f.place = true ∧ (k f).isSome = true := by
  rw [run_anchor]
  by_cases h : a.holds f.place = true
  · simp [h]
  · simp [h]

/-- the characters of a text, and then what follows in the sequence -/
theorem isSome_chars_iff {t : Text} {ps : List Pattern} {f : Found} :
    (run (.ofList (chars t ++ ps)) k f).isSome = true ↔
      ∃ left, f.place.after = t ++ left ∧
        (run (.ofList ps) k ⟨⟨t.reverse ++ f.place.before, left⟩, f.groups⟩).isSome = true := by
  induction t generalizing f with
  | nil =>
    constructor
    · intro h
      exact ⟨f.place.after, rfl, h⟩
    · rintro ⟨left, hcut, h⟩
      obtain rfl : f.place.after = left := hcut
      exact h
  | cons c t ih =>
    show (run (.ofList (char c :: (chars t ++ ps))) k f).isSome = true ↔ _
    rw [run_ofList_cons, isSome_char_iff]
    simp only [ih]
    constructor
    · rintro ⟨_, hcut, left, rfl, h⟩
      exact ⟨left, hcut, by simpa using h⟩
    · rintro ⟨left, hcut, h⟩
      exact ⟨t ++ left, hcut, left, rfl, by simpa using h⟩

theorem isSome_one_iff {set : CharSet} {fold : Fold} {f : Found} :
    (run (.one set fold) k f).isSome = true ↔
      ∃ c left, f.place.after = c :: left ∧ set.contains fold c = true ∧
        (k ⟨⟨c :: f.place.before, left⟩, f.groups⟩).isSome = true := by
  obtain ⟨⟨before, after⟩, groups⟩ := f
  cases after with
  | nil =>
    rw [run_one_nil]
    simp
  | cons c rest =>
    rw [run_one_cons]
    constructor
    · intro h
      split at h
      · rename_i hc
        exact ⟨c, rest, rfl, hc, h⟩
      · cases h
    · rintro ⟨d, left, hcut, hd, h⟩
      obtain ⟨rfl, rfl⟩ := List.cons.inj hcut
      rwa [if_pos hd]

/-! ## What a sequence finds -/

variable {set : CharSet} {fold : Fold} {groups : List (Nat × Text)} {before taken left : List Char} {g : Found}

/-- the longest run that what follows accepts is the one that is taken -/
theorem longestFirst_eq_some (htaken : ∀ c ∈ taken, set.contains fold c = true)
    (hk : k ⟨⟨taken.reverse ++ before, left⟩, groups⟩ = some g)
    (hlonger : ∀ more rest, left = more ++ rest → more ≠ [] → (∀ c ∈ more, set.contains fold c = true) →
      k ⟨⟨more.reverse ++ (taken.reverse ++ before), rest⟩, groups⟩ = none) :
    longestFirst k set fold groups before (taken ++ left) = some g := by
  induction taken generalizing before with
  | nil =>
    cases left with
    | nil => exact hk
    | cons c rest =>
      rw [List.nil_append, longestFirst]
      split
      · rename_i hc
        have hnone : longestFirst k set fold groups (c :: before) rest = none := by
          rw [← Option.not_isSome_iff_eq_none, isSome_longestFirst_iff]
          rintro ⟨more, rest, rfl, hmore, hsome⟩
          have hnone := hlonger (c :: more) rest rfl (List.cons_ne_nil c more) (List.forall_mem_cons.2 ⟨hc, hmore⟩)
          simp only [List.reverse_cons, List.append_assoc, List.singleton_append, List.reverse_nil, List.nil_append]
            at hnone
          rw [hnone] at hsome
          cases hsome
        rw [hnone]
        exact hk
      · exact hk
  | cons c taken ih =>
    obtain ⟨hc, htaken⟩ := List.forall_mem_cons.1 htaken
    rw [List.reverse_cons, List.append_assoc, List.singleton_append] at hk hlonger
    rw [List.cons_append, longestFirst, if_pos hc, ih htaken hk hlonger]
    rfl

theorem run_star_eq_some (htaken : ∀ c ∈ taken, set.contains fold c = true)
    (hstop : ∀ c ∈ left.head?, set.contains fold c = false)
    (hk : k ⟨⟨taken.reverse ++ before, left⟩, groups⟩ = some g) :
    run (star (.one set fold)) k ⟨⟨before, taken ++ left⟩, groups⟩ = some g := by
  rw [run_star_one]
  refine longestFirst_eq_some htaken hk fun more rest hleft hne hmore => ?_
  obtain ⟨c, more, rfl⟩ := List.exists_cons_of_ne_nil hne
  have hc := hstop c (by rw [hleft]; rfl)
  rw [hmore c List.mem_cons_self] at hc
  cases hc

theorem run_plus_eq_some (hne : taken ≠ []) (htaken : ∀ c ∈ taken, set.contains fold c = true)
    (hstop : ∀ c ∈ left.head?, set.contains fold c = false)
    (hk : k ⟨⟨taken.reverse ++ before, left⟩, groups⟩ = some g) :
    run (plus (.one set fold)) k ⟨⟨before, taken ++ left⟩, groups⟩ = some g := by
  obtain ⟨c, taken, rfl⟩ := List.exists_cons_of_ne_nil hne
  obtain ⟨hc, htaken⟩ := List.forall_mem_cons.1 htaken
  rw [run_plus_one, List.cons_append, run_one_cons, if_pos hc]
  refine run_star_eq_some htaken hstop ?_
  rwa [List.reverse_cons, List.append_assoc, List.singleton_append] at hk

theorem run_char_cons (c : Char) : run (.char c) k ⟨⟨before, c :: left⟩, groups⟩ = k ⟨⟨c :: before, left⟩, groups⟩ := by
  rw [char, run_one_cons, if_pos (by simp)]

/-- the run that was taken is followed by what the rest of the sequence found -/
theorem exists_of_longestFirst_eq_some {after : List Char}
    (h : longestFirst k set fold groups before after = some g) :
    ∃ taken left, after = taken ++ left ∧ (∀ c ∈ taken, set.contains fold c = true) ∧
      k ⟨⟨taken.reverse ++ before, left⟩, groups⟩ = some g := by
  induction after generalizing before with
  | nil => exact ⟨[], [], rfl, by simp, h⟩
  | cons c rest ih =>
    rw [longestFirst] at h
    split at h
    · rename_i hc
      rcases Option.or_eq_some_iff.1 h with h | ⟨-, h⟩
      · obtain ⟨taken, left, rfl, htaken, hk⟩ := ih h
        exact ⟨c :: taken, left, rfl, List.forall_mem_cons.2 ⟨hc, htaken⟩, by simpa using hk⟩
      · exact ⟨[], c :: rest, rfl, by simp, h⟩
    · exact ⟨[], c :: rest, rfl, by simp, h⟩

theorem exists_of_star_eq_some {f : Found} (h : run (star (.one set fold)) k f = some g) :
    ∃ taken left, f.place.after = taken ++ left ∧ (∀ c ∈ taken, set.contains fold c = true) ∧
      k ⟨⟨taken.reverse ++ f.place.before, left⟩, f.groups⟩ = some g := by
  rw [run_star_one] at h
  exact exists_of_longestFirst_eq_some h

theorem exists_of_plus_eq_some {f : Found} (h : run (plus (.one set fold)) k f = some g) :
    ∃ taken left, f.place.after = taken ++ left ∧ taken ≠ [] ∧ (∀ c ∈ taken, set.contains fold c = true) ∧
      k ⟨⟨taken.reverse ++ f.place.before, left⟩, f.groups⟩ = some g := by
  obtain ⟨⟨before, after⟩, groups⟩ := f
  rw [run_plus_one] at h
  cases after with
  | nil =>
    rw [run_one_nil] at h
    cases h
  | cons c rest =>
    rw [run_one_cons] at h
    split at h
    · rename_i hc
      obtain ⟨taken, left, hcut, htaken, hk⟩ := exists_of_star_eq_some h
      exact ⟨c :: taken, left, congrArg (c :: ·) hcut, List.cons_ne_nil c taken, List.forall_mem_cons.2 ⟨hc, htaken⟩,
        by simpa using hk⟩
    · cases h

theorem exists_of_char_eq_some {c : Char} {f : Found} (h : run (.char c) k f = some g) :
    ∃ left, f.place.after = c :: left ∧ k ⟨⟨c :: f.place.before, left⟩, f.groups⟩ = some g := by
  obtain ⟨left, hcut, -⟩ := isSome_char_iff.1 (Option.isSome_iff_exists.2 ⟨g, h⟩)
  obtain ⟨⟨before, after⟩, groups⟩ := f
  obtain rfl : after = c :: left := hcut
  rw [run_char_cons] at h
  exact ⟨left, rfl, h⟩

/-- the characters of a text that stands there, and then what follows in the sequence -/
theorem run_chars_append (t : Text) (ps : List Pattern) :
    run (.ofList (chars t ++ ps)) k ⟨⟨before, t ++ left⟩, groups⟩ =
      run (.ofList ps) k ⟨⟨t.reverse ++ before, left⟩, groups⟩ := by
  induction t generalizing before with
  | nil => rfl
  | cons c t ih =>
    show run (.ofList (char c :: (chars t ++ ps))) k ⟨⟨before, c :: (t ++ left)⟩, groups⟩ = _
    rw [run_ofList_cons, run_char_cons, ih]
    simp

end Pattern

end Linewise
