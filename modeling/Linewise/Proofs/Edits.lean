/-
What the edits look for.

Each edit of a statement leaves a text alone in which there is nothing for it to find: no quote for the raw strings and
the formats, no call of a mapped name, no capitalized word right before a parenthesis, none of the words that the
standard table reserves, no `self` right before a dot. `WordBefore` says that a word stands right before a character; where
the character stands in a text only once, that is the word that the text before it ends with
(`WordBefore.eq_takeEndWhile`).
-/
import Linewise.Config.Default
import Linewise.Edit.Steps
import Linewise.Proofs.BareCalls
import Linewise.Proofs.WholeWords

namespace Linewise

open Pattern

/-! ## Words before a character -/

/-- the word stands in the text, with the character right after it -/
def WordBefore (t w : Text) (c : Char) : Prop :=
  IsWord w ∧ ∃ u v, t = u ++ (w ++ c :: v) ∧ u.getLast?.any isWordChar = false

theorem takeEndWhile_append {p : Char → Bool} {u w : Text} (hw : ∀ c ∈ w, p c = true) (hu : u.getLast?.any p = false) :
    Text.takeEndWhile p (u ++ w) = w := by
  have hnone : u.reverse.takeWhile p = [] := by
    rw [← List.head?_reverse] at hu
    cases h : u.reverse with
    | nil => rfl
    | cons c rest =>
      rw [h] at hu
      rw [List.takeWhile_cons, if_neg (by rw [show p c = false from hu]; exact Bool.noConfusion)]
  rw [Text.takeEndWhile, List.reverse_append,
    List.takeWhile_append_of_pos fun c hc => hw c (List.mem_reverse.1 hc), hnone, List.append_nil, List.reverse_reverse]

namespace WordBefore

variable {t w x y : Text} {c : Char}

theorem mem (h : WordBefore t w c) : c ∈ t := by
  obtain ⟨-, u, v, rfl, -⟩ := h
  simp

/-- what stands before the only `c` of the text -/
theorem eq_takeEndWhile (h : WordBefore (x ++ c :: y) w c) (hx : c ∉ x) (hy : c ∉ y) :
    w = Text.takeEndWhile isWordChar x := by
  obtain ⟨hw, u, v, htext, hu⟩ := h
  rw [← List.append_assoc] at htext
  obtain ⟨rfl, -⟩ := (List.append_cons_inj_of_notMem hx hy).1 htext
  exact (takeEndWhile_append hw.all_word hu).symm

/-- no word stands before the only `c` of the text -/
theorem not_of_apart (hx : c ∉ x) (hy : c ∉ y) (hapart : x.getLast?.any isWordChar = false) :
    ¬ WordBefore (x ++ c :: y) w c := by
  intro h
  have hnone := h.eq_takeEndWhile hx hy
  rw [← List.append_nil x, takeEndWhile_append (by simp) hapart] at hnone
  exact h.1.ne_nil hnone

end WordBefore

namespace Edit

variable {t : Text}

/-! ## Strings -/

theorem replaceRawStrings_eq_self (hsingle : '\'' ∉ t) (hdouble : '"' ∉ t) : replaceRawStrings t = t := by
  refine replace_eq_self _ fun q hq => matchAt_eq_none fun hsome => ?_
  rw [rawString, run_ofList_cons, run_wordBoundary] at hsome
  split at hsome
  · simp only [run_ofList_cons, run_group, oneOf, isSome_char_iff, isSome_one_iff] at hsome
    obtain ⟨_, hafter, quote, left, rfl, hquote, -⟩ := hsome
    have hmem : quote ∈ t := hq ▸ Place.mem_text (by rw [hafter]; simp)
    have hcases : quote = '\'' ∨ quote = '"' := by
      simpa [CharSet.contains, CharSet.covers, SetItem.contains] using hquote
    rcases hcases with rfl | rfl
    · exact hsingle hmem
    · exact hdouble hmem
  · cases hsome

theorem replaceFormatIn_eq_self {quote : Char} (h : quote ∉ t) : replaceFormatIn quote t = t := by
  refine replace_eq_self _ fun q hq => matchAt_eq_none fun hsome => ?_
  simp only [formatIn, run_ofList_cons, run_group, isSome_char_iff] at hsome
  obtain ⟨_, hafter, -⟩ := hsome
  exact h (hq ▸ Place.mem_text (by rw [hafter]; exact List.mem_cons_self))

theorem replaceFormats_eq_self (hsingle : '\'' ∉ t) (hdouble : '"' ∉ t) : replaceFormats t = t := by
  rw [replaceFormats, replaceFormatIn_eq_self hdouble, replaceFormatIn_eq_self hsingle]

/-! ## Calls -/

open BareCall

theorem flatMap_renamed {tables : Tables} {segments : List Segment}
    (h : ∀ c, .call c ∈ segments → c.renamed tables = c.text) :
    segments.flatMap (Segment.renamed tables) = segments.flatMap Segment.text := by
  refine List.flatMap_congr fun s hs => ?_
  cases s with
  | other x => rfl
  | call c => exact h c hs

/-- a text in which no call has a mapped name -/
theorem replaceCalls_eq_self {tables : Tables} (h : ∀ b c a, Stands t b c a → c.renamed tables = c.text) :
    replaceCalls tables t = t := by
  obtain ⟨segments, hsegments, hrenamed⟩ := exists_segments tables t
  have hcalls : ∀ c, .call c ∈ segments → c.renamed tables = c.text := by
    intro c hc
    obtain ⟨earlier, later, hsplit⟩ := List.append_of_mem hc
    exact h _ c _ ((hsegments.stands_iff _ c _).2 ⟨earlier, later, hsplit, rfl, rfl⟩)
  rw [hrenamed, flatMap_renamed hcalls, hsegments.flatMap_text]

/-- a text with a call, and no parenthesis opens before or after it -/
theorem replaceCalls_of_stands (tables : Tables) {b a : Text} {c : BareCall} (h : Stands t b c a) (hb : '(' ∉ b)
    (ha : '(' ∉ a) : replaceCalls tables t = b ++ (c.renamed tables ++ a) := by
  have hnone : ∀ {segments : List Segment}, '(' ∉ segments.flatMap Segment.text →
      segments.flatMap (Segment.renamed tables) = segments.flatMap Segment.text := by
    refine fun hparen => flatMap_renamed fun d hd => absurd (List.mem_flatMap.2 ⟨_, hd, ?_⟩) hparen
    simp [Segment.text, text]
  obtain ⟨segments, hsegments, hrenamed⟩ := exists_segments tables t
  obtain ⟨earlier, later, rfl, rfl, rfl⟩ := (hsegments.stands_iff b c a).1 h
  rw [hrenamed, List.flatMap_append, List.flatMap_cons, hnone hb, hnone ha]
  rfl

/-! ## Constructor calls -/

theorem isWordChar_of_isUpper {c : Char} (h : c.isUpper = true) : isWordChar c = true := by
  have hascii : c.val < 128 := by
    have hrange : 65 ≤ c.val ∧ c.val ≤ 90 := of_decide_eq_true h
    exact Nat.lt_of_le_of_lt hrange.2 (by decide)
  have halphanum : c.isAlphanum = true := by
    show ((c.isUpper || c.isLower) || c.isDigit) = true
    rw [h]
    rfl
  refine isWordChar_of_isAlphanumeric ?_
  rwa [isAlphanumeric, if_pos hascii]

theorem contains_capital (c : Char) :
    (⟨[.span 'A'.toNat 'Z'.toNat], false⟩ : CharSet).contains .exact c = c.isUpper := by
  simp only [CharSet.contains, CharSet.covers, List.any_cons, List.any_nil, Bool.or_false]
  show (decide (_ ∧ _) != false) = decide (_ ∧ _)
  rw [Bool.bne_false]
  rfl

/-- a capitalized word that stands alone before a parenthesis -/
theorem matchAt_constructorCall {w before left : Text} (hw : IsWord w) (hcapital : w.head?.any Char.isUpper = true)
    (hbefore : before.head?.any isWordChar = false) :
    matchAt constructorCall ⟨before, w ++ '(' :: left⟩ =
      some ⟨⟨before, w ++ '(' :: left⟩, ⟨⟨'(' :: (w.reverse ++ before), left⟩, [(1, w)]⟩⟩ := by
  have hstart := hw.head?_append ('(' :: left)
  obtain ⟨c, w, rfl⟩ := List.exists_cons_of_ne_nil hw.ne_nil
  have htail : ∀ d ∈ w, CharSet.word.contains .exact d = true := by
    simpa using (List.forall_mem_cons.1 hw.all_word).2
  have hrun : Pattern.run constructorCall some ⟨⟨before, c :: w ++ '(' :: left⟩, []⟩ =
      some ⟨⟨'(' :: ((c :: w).reverse ++ before), left⟩, [(1, c :: w)]⟩ := by
    rw [constructorCall, run_ofList_cons, run_wordBoundary, if_pos (by rw [hbefore, hstart]; rfl), run_ofList_cons,
      run_group, run_ofList_cons, List.cons_append, run_one_cons, contains_capital,
      if_pos (show c.isUpper = true from hcapital)]
    refine run_star_eq_some htail (by rintro _ ⟨⟩; decide) ?_
    have htaken := Place.upTo_append before (c :: w) ('(' :: left)
    simp only [List.reverse_cons, List.append_assoc, List.cons_append, List.nil_append] at htaken ⊢
    show Pattern.run (char '(') some _ = _
    rw [run_char_cons, htaken]
  rw [matchAt, hrun]
  rfl

theorem exists_of_matchAt_constructorCall {q : Pattern.Place} {g : Hit} (h : matchAt constructorCall q = some g) :
    ∃ w left, IsWord w ∧ w.head?.any Char.isUpper = true ∧ q.after = w ++ '(' :: left ∧
      q.before.head?.any isWordChar = false := by
  have hsome := isSome_of_matchAt h
  rw [constructorCall, run_ofList_cons, run_wordBoundary] at hsome
  split at hsome
  · rename_i hboundary
    simp only [ofList, run_cat, run_group, wordChar, isSome_one_iff, contains_capital, isSome_star_iff, isSome_char_iff,
      CharSet.contains_word] at hsome
    obtain ⟨c, _, hafter, hcapital, w, _, rfl, hword, left, rfl, -⟩ := hsome
    have hc := isWordChar_of_isUpper hcapital
    refine ⟨c :: w, left, ⟨List.cons_ne_nil c w, List.forall_mem_cons.2 ⟨hc, hword⟩⟩, hcapital, hafter, ?_⟩
    simpa [hafter, hc] using hboundary
  · cases hsome

theorem wordBefore_of_place {q : Pattern.Place} {w left : Text} {c : Char} (hw : IsWord w)
    (hafter : q.after = w ++ c :: left) (hbefore : q.before.head?.any isWordChar = false) : WordBefore q.text w c :=
  ⟨hw, q.before.reverse, left, Place.text_eq hafter, by rwa [List.getLast?_reverse]⟩

/-- a text without a capitalized word right before a parenthesis -/
theorem replaceConstructors_eq_self (h : ∀ w, WordBefore t w '(' → w.head?.any Char.isUpper = false) :
    replaceConstructors t = t := by
  have hreplace : constructorCall.replace (fun h => h.group 1 ++ ".new(") t = t := by
    refine replace_eq_self _ fun q hq => Option.eq_none_iff_forall_ne_some.2 fun g hg => ?_
    obtain ⟨w, left, hw, hcapital, hafter, hbefore⟩ := exists_of_matchAt_constructorCall hg
    rw [h w (hq ▸ wordBefore_of_place hw hafter hbefore)] at hcapital
    cases hcapital
  rw [replaceConstructors, hreplace, ite_self]

/-- a text with a capitalized word before its only opening parenthesis -/
theorem replaceConstructors_of_capital {x w y : Text} (hclass : isClassHeader (x ++ (w ++ '(' :: y)) = false)
    (hw : IsWord w) (hcapital : w.head?.any Char.isUpper = true) (hapart : x.getLast?.any isWordChar = false)
    (hx : '(' ∉ x) (hy : '(' ∉ y) : replaceConstructors (x ++ (w ++ '(' :: y)) = x ++ (w ++ (".new(" ++ y)) := by
  have hbefore : x.reverse.head?.any isWordChar = false := by rwa [List.head?_reverse]
  have hmatch := @matchAt_constructorCall w x.reverse y hw hcapital hbefore
  have hcut : w ++ '(' :: y = (w ++ ['(']) ++ y := by simp
  have hword : '(' ∉ w := fun hmem => absurd (hw.all_word _ hmem) (by decide)
  rw [replaceConstructors, hclass, if_neg Bool.noConfusion, hcut]
  rw [hcut] at hmatch
  rw [replace_single _ hmatch (by simp) (by simp)]
  · simp [Hit.group, Found.group, Found.group?]
  · intro q g hq hg
    obtain ⟨w', left, hw', -, hafter, hbefore'⟩ := exists_of_matchAt_constructorCall hg
    rw [Place.text_eq hafter, ← hcut, ← List.append_assoc, ← List.append_assoc] at hq
    have hnone : '(' ∉ x ++ w := by simp [hx, hword]
    have hheads := ((List.append_cons_inj_of_notMem hnone hy).1 hq.symm).1
    have hwords := congrArg (Text.takeEndWhile isWordChar) hheads
    rw [takeEndWhile_append hw.all_word hapart,
      takeEndWhile_append hw'.all_word (by rwa [List.getLast?_reverse])] at hwords
    rw [hwords, List.append_left_inj] at hheads
    rw [hheads, List.reverse_reverse]

/-! ## Reserved words -/

/-- the words that have something in them which the standard table replaces -/
def standardWords : List Text := ["None", "True", "False", "elif", "is", "end"]

/-- blanks, perhaps, and the word `is`, with more after it -/
def spacedIs (more : List Pattern) : Pattern :=
  .ofList (wordBoundary :: star blank :: (chars "is" ++ (more ++ [wordBoundary])))

/-- the patterns of the standard table -/
def standardPatterns : List (Pattern × Text) :=
  [(wholeWord "None", "nil"), (wholeWord "True", "true"), (wholeWord "False", "false"), (wholeWord "elif", "elsif"),
    (spacedIs (plus blank :: chars "not"), ".not_equal?"), (spacedIs [], ".equal?"), (wholeWord "end", "end_")]

theorem reservedPatterns_standard : reservedPatterns Tables.standard.reservedWords.entries = .ok standardPatterns := by
  decide +kernel

theorem replace_wholeWord_eq_self {key value : Text} (hkey : IsWord key) (h : key ∉ runs t) :
    (wholeWord key).replace (fun _ => value) t = t := by
  rw [replace_wholeWord hkey]
  refine mapRuns_eq_self fun w hw => if_neg ?_
  rintro rfl
  exact h hw

/-- where the pattern matches there is the word `is`, if no word character can come next -/
theorem replace_spacedIs_eq_self {more : List Pattern} {value : Text}
    (hmore : ∀ before left groups, (Pattern.run (.ofList (more ++ [wordBoundary])) some
      ⟨⟨'s' :: before, left⟩, groups⟩).isSome = true → BeginsApart left) (h : "is".toList ∉ runs t) :
    (spacedIs more).replace (fun _ => value) t = t := by
  refine replace_eq_self _ fun q hq => matchAt_eq_none fun hsome => h ?_
  rw [spacedIs, run_ofList_cons, run_wordBoundary] at hsome
  split at hsome
  · rename_i hboundary
    rw [run_ofList_cons, blank, isSome_star_iff] at hsome
    obtain ⟨space, _, hafter, hblank, hsome⟩ := hsome
    obtain ⟨left, rfl, hsome⟩ := isSome_chars_iff.1 hsome
    have hleft : BeginsApart left := hmore _ left _ hsome
    have hbefore : (q.before.reverse ++ space).getLast?.any isWordChar = false := by
      rcases List.eq_nil_or_concat' space with rfl | ⟨space, c, rfl⟩
      · rw [List.append_nil, List.getLast?_reverse]
        have hi : q.after.head?.any isWordChar = true := by
          rw [show q.after = _ from hafter]
          exact (by decide : IsWord "is").head?_append left
        simpa [hi] using hboundary
      · have hc : isBlank c = true := by simpa using hblank c (by simp)
        rw [← List.append_assoc, List.getLast?_concat]
        exact isWordChar_of_isBlank hc
    have hrun := mem_runs_of_between (w := "is") (by decide) hbefore hleft
    rwa [List.append_assoc, ← hafter, show q.before.reverse ++ q.after = t from hq] at hrun
  · cases hsome

theorem replaceReserved_eq_self {patterns : List (Pattern × Text)}
    (h : ∀ e ∈ patterns, e.1.replace (fun _ => e.2) t = t) : replaceReserved patterns t = t := by
  induction patterns with
  | nil => rfl
  | cons e patterns ih =>
    obtain ⟨he, h⟩ := List.forall_mem_cons.1 h
    show replaceReserved patterns (e.1.replace (fun _ => e.2) t) = t
    rw [he, ih h]

/-- a text with none of the words -/
theorem replaceReserved_standard_eq_self (h : ∀ w ∈ runs t, w ∉ standardWords) :
    replaceReserved standardPatterns t = t := by
  refine replaceReserved_eq_self ?_
  have hmissing : ∀ w ∈ standardWords, w ∉ runs t := fun w hw hrun => h w hrun hw
  simp only [standardWords, List.forall_mem_cons] at hmissing
  obtain ⟨hnone, htrue, hfalse, helif, his, hend, -⟩ := hmissing
  have hword {key value : Text} (hkey : IsWord key) (hruns : key ∉ runs t) :
      (wholeWord key).replace (fun _ => value) t = t := replace_wholeWord_eq_self hkey hruns
  simp only [standardPatterns, List.forall_mem_cons]
  refine ⟨hword (by decide) hnone, hword (by decide) htrue, hword (by decide) hfalse, hword (by decide) helif,
    replace_spacedIs_eq_self ?_ his, replace_spacedIs_eq_self ?_ his, hword (by decide) hend, by rintro _ ⟨⟩⟩
  · -- a blank comes next
    intro before left groups hsome
    rw [List.cons_append, run_ofList_cons, blank, isSome_plus_iff] at hsome
    obtain ⟨space, rest, hleft, hne, hblank, -⟩ := hsome
    obtain ⟨c, space, rfl⟩ := List.exists_cons_of_ne_nil hne
    have hc : isBlank c = true := by simpa using hblank c List.mem_cons_self
    rw [show left = _ from hleft]
    exact isWordChar_of_isBlank hc
  · -- a word ends here
    intro before left groups hsome
    change (Pattern.run wordBoundary some _).isSome = true at hsome
    rw [run_wordBoundary] at hsome
    split at hsome
    · rename_i hboundary
      have hs : isWordChar 's' = true := by decide
      simpa [hs, BeginsApart] using hboundary
    · cases hsome

/-- no reserved word's pattern finds anything in the text -/
def Unreserved (tables : Tables) (t : Text) : Prop :=
  ∃ patterns, reservedPatterns tables.reservedWords.entries = .ok patterns ∧ ∀ e ∈ patterns, hits e.1 t = []

theorem Unreserved.notMem (h : Unreserved .standard t) : t ∉ standardWords := by
  obtain ⟨patterns, hpatterns, hnone⟩ := h
  rw [reservedPatterns_standard] at hpatterns
  obtain rfl := Except.ok.inj hpatterns
  have hfound : ∀ w ∈ standardWords, ∃ e ∈ standardPatterns, hits e.1 w ≠ [] := by decide +kernel
  intro hmem
  obtain ⟨e, he, hhits⟩ := hfound t hmem
  exact hhits (hnone e he)

/-! ## References to the receiver -/

theorem wordBefore_of_matchAt_self {more : List Pattern} {q : Pattern.Place} {g : Hit}
    (h : matchAt (.ofList (wordBoundary :: (chars "self." ++ more))) q = some g) : WordBefore q.text "self" '.' := by
  have hsome := isSome_of_matchAt h
  rw [run_ofList_cons, run_wordBoundary] at hsome
  split at hsome
  · rename_i hboundary
    obtain ⟨left, hafter, -⟩ := isSome_chars_iff.1 hsome
    have hs : q.after.head?.any isWordChar = true := by
      rw [show q.after = _ from hafter]
      show isWordChar 's' = true
      decide
    exact wordBefore_of_place (by decide) hafter (by simpa [hs] using hboundary)
  · cases hsome

/-- a text without the word `self` right before a dot -/
theorem replaceSelf_eq_self (h : ¬ WordBefore t "self" '.') : replaceSelf t = t := by
  have hnone {more : List Pattern} (replacement : Hit → Text) :
      (Pattern.ofList (wordBoundary :: (chars "self." ++ more))).replace replacement t = t :=
    replace_eq_self _ fun q hq => Option.eq_none_iff_forall_ne_some.2 fun g hg =>
      h (hq ▸ wordBefore_of_matchAt_self hg)
  show selfAttribute.replace _ (selfCall.replace _ t) = t
  rw [show selfCall.replace _ t = t from hnone _]
  exact hnone _

/-! ## All of them -/

/-- the edits after the renaming of calls, with the standard words -/
def lastEdits (t : Text) : Text := replaceSelf (replaceReserved standardPatterns (replaceConstructors t))

theorem statement_standard (t : Text) :
    statement .standard t = .ok (lastEdits (replaceCalls .standard (replaceFormats (replaceRawStrings t)))) := by
  simp only [statement, Step.all, run, Step.apply, reservedPatterns_standard]
  rfl

theorem lastEdits_eq_self (hcapital : ∀ w, WordBefore t w '(' → w.head?.any Char.isUpper = false)
    (hwords : ∀ w ∈ runs t, w ∉ standardWords) (hself : ¬ WordBefore t "self" '.') : lastEdits t = t := by
  rw [lastEdits, replaceConstructors_eq_self hcapital, replaceReserved_standard_eq_self hwords,
    replaceSelf_eq_self hself]

end Edit

end Linewise
