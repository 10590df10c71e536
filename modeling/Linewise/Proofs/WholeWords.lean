/-
Reserved words that are plain words.

A key made of word characters alone reads as that word between word boundaries (`read_wrappedKey`), and so matches a run
of word characters that is equal to it and nothing else. The pass of such a key works on each run by itself, and so do
the passes of a table, one after another. `reserved_words_act_on_runs` says what they make of a run.
-/
import Linewise.Proofs.Runs
import Linewise.Proofs.WordBoundaries

namespace Linewise

/-! ## One word as a pattern -/

namespace Pattern

/-- the text between word boundaries -/
def wholeWord (key : Text) : Pattern := .ofList (wordBoundary :: (chars key ++ [wordBoundary]))

variable {key before after left : Text}

/-- a word matches where it is a whole run -/
theorem matchAt_wholeWord (hkey : IsWord key) (hbefore : before.head?.any isWordChar = false)
    (hleft : BeginsApart left) :
    matchAt (wholeWord key) ⟨before, key ++ left⟩ =
      some ⟨⟨before, key ++ left⟩, ⟨key.reverse ++ before, left⟩, []⟩ := by
  have hstart : (before.head?.any isWordChar != (key ++ left).head?.any isWordChar) = true := by
    rw [hbefore, hkey.head?_append]
    rfl
  have hend : ((key.reverse ++ before).head?.any isWordChar != left.head?.any isWordChar) = true := by
    rw [hkey.reverse.head?_append, hleft]
    rfl
  rw [matchAt, wholeWord, run_ofList_cons, run_wordBoundary, if_pos hstart, run_chars_append]
  show (run wordBoundary some _).map _ = _
  rw [run_wordBoundary, if_pos hend]
  rfl

/-- and nowhere else -/
theorem exists_of_matchAt_wholeWord (hkey : IsWord key) {h : Hit}
    (hmatch : matchAt (wholeWord key) ⟨before, after⟩ = some h) :
    ∃ left, after = key ++ left ∧ before.head?.any isWordChar = false ∧ BeginsApart left := by
  have hsome := isSome_of_matchAt hmatch
  rw [wholeWord, run_ofList_cons, run_wordBoundary] at hsome
  split at hsome
  · rename_i hstart
    obtain ⟨left, hafter, hsome⟩ := isSome_chars_iff.1 hsome
    obtain rfl : after = key ++ left := hafter
    change (run wordBoundary some _).isSome = true at hsome
    rw [run_wordBoundary] at hsome
    split at hsome
    · rename_i hend
      simp only [hkey.head?_append, hkey.reverse.head?_append] at hstart hend
      exact ⟨left, rfl, by simpa using hstart, by simpa [BeginsApart] using hend⟩
    · cases hsome
  · cases hsome

/-- the text from a place on, with `value` for each occurrence of the word -/
def replacedFrom (key value before t : Text) : Text :=
  (piecesFrom (wholeWord key) before t 0).flatMap (Piece.replaced fun _ => value)

theorem replacedFrom_of_none {value : Text} {c : Char} (hnone : matchAt (wholeWord key) ⟨before, c :: after⟩ = none) :
    replacedFrom key value before (c :: after) = c :: replacedFrom key value (c :: before) after := by
  rw [replacedFrom, piecesFrom_of_none hnone]
  rfl

/-- nothing is replaced in a run that goes on before the place -/
theorem replacedFrom_inside (hkey : IsWord key) {value w : Text} (hw : ∀ c ∈ w, isWordChar c = true)
    (hbefore : before.head?.any isWordChar = true) :
    replacedFrom key value before (w ++ after) = w ++ replacedFrom key value (w.reverse ++ before) after := by
  refine replaced_append_of_none _ fun u c v hcut => Option.eq_none_iff_forall_ne_some.2 fun h hmatch => ?_
  obtain ⟨left, -, hapart, -⟩ := exists_of_matchAt_wholeWord hkey hmatch
  rcases List.eq_nil_or_concat' u with rfl | ⟨u, d, rfl⟩
  · rw [List.reverse_nil, List.nil_append, hbefore] at hapart
    cases hapart
  · have hd : isWordChar d = true := hw d (by simp [hcut])
    simp [hd] at hapart

/-- each run that is the word is replaced, and nothing else -/
theorem replacedFrom_eq_mapRuns (hkey : IsWord key) (value : Text) {t : Text}
    (h : before.head?.any isWordChar = false ∨ BeginsApart t) :
    replacedFrom key value before t = mapRuns (fun w => if w = key then value else w) t := by
  induction t using run_induction generalizing before with
  | nil =>
    have hnone : matchAt (wholeWord key) ⟨before, []⟩ = none := by
      refine Option.eq_none_iff_forall_ne_some.2 fun h hmatch => ?_
      obtain ⟨left, hafter, -⟩ := exists_of_matchAt_wholeWord hkey hmatch
      exact hkey.ne_nil (List.append_eq_nil_iff.1 hafter.symm).1
    rw [replacedFrom, piecesFrom_nil_of_none hnone, mapRuns_nil]
    rfl
  | other c t hc ih =>
    have hnone : matchAt (wholeWord key) ⟨before, c :: t⟩ = none := by
      refine Option.eq_none_iff_forall_ne_some.2 fun h hmatch => ?_
      obtain ⟨left, hafter, -⟩ := exists_of_matchAt_wholeWord hkey hmatch
      have hhead := hkey.head?_append left
      rw [← hafter, List.head?_cons, Option.any_some, hc] at hhead
      cases hhead
    have hbefore : (c :: before).head?.any isWordChar = false := hc
    rw [replacedFrom_of_none hnone, mapRuns_other t hc, ih (.inl hbefore)]
  | word w t hw ht ih =>
    have hbefore : before.head?.any isWordChar = false := by
      refine h.resolve_right fun hapart => ?_
      rw [BeginsApart, hw.head?_append] at hapart
      cases hapart
    rw [mapRuns_word hw ht]
    by_cases heq : w = key
    · subst heq
      rw [if_pos rfl, ← ih (.inr ht), replacedFrom,
        piecesFrom_of_match (matchAt_wholeWord hw hbefore ht) rfl hw.ne_nil]
      rfl
    · rw [if_neg heq]
      have hnone : matchAt (wholeWord key) ⟨before, w ++ t⟩ = none := by
        refine Option.eq_none_iff_forall_ne_some.2 fun h hmatch => ?_
        obtain ⟨left, hafter, -, hleft⟩ := exists_of_matchAt_wholeWord hkey hmatch
        exact heq (eq_of_longest_run hafter hw.all_word ht.of_mem hkey.all_word hleft.of_mem).1
      obtain ⟨c, w, rfl⟩ := List.exists_cons_of_ne_nil hw.ne_nil
      obtain ⟨hc, hall⟩ := List.forall_mem_cons.1 hw.all_word
      have hinside : (c :: before).head?.any isWordChar = true := hc
      rw [List.cons_append] at hnone
      rw [List.cons_append, replacedFrom_of_none hnone, replacedFrom_inside hkey hall hinside, ih (.inr ht),
        List.cons_append]

theorem replace_wholeWord (hkey : IsWord key) (value t : Text) :
    (wholeWord key).replace (fun _ => value) t = mapRuns (fun w => if w = key then value else w) t :=
  replacedFrom_eq_mapRuns hkey value (.inl rfl)

/-! ## Reading one word -/

theorem ne_of_isWordChar {c d : Char} (hc : isWordChar c = true) (hd : isWordChar d = false) : c ≠ d := by
  rintro rfl
  rw [hc] at hd
  cases hd

theorem tokens_of_word (hkey : ∀ c ∈ key, isWordChar c = true) : tokens key = (key.map .plain, false) := by
  induction key with
  | nil => rfl
  | cons c key ih =>
    obtain ⟨hc, hkey⟩ := List.forall_mem_cons.1 hkey
    have hne : c ≠ '\\' := ne_of_isWordChar hc (by decide)
    rw [tokens.eq_4 _ _ (fun heq _ => hne heq) fun _ _ heq _ => hne heq, ih hkey]
    rfl

/-- a character of a word as a part -/
def wordPart (c : Char) : Item := ⟨char c, .unit, .other⟩

theorem readPart_of_isWordChar {c : Char} {fuel start : Nat} {b : Bool} {items : List Item} {r : Reading}
    (hc : isWordChar c = true) (hmodes : r.modes = {}) :
    readPart (fuel + 1) start b c items r = .ok (wordPart c :: items, r) := by
  have hne {d : Char} : isWordChar d = false → c ≠ d := ne_of_isWordChar hc
  have hcode : codePart c.toNat r = .ok (wordPart c, r) := by
    rw [codePart, Atom.item, Char.ofNat_toNat, if_pos rfl]
    show Except.ok ((⟨.one ⟨[.single c], false⟩ r.modes.fold, .unit, .other⟩ : Item), r) = _
    rw [hmodes]
    rfl
  rw [readPart, get_then]
  have hspecial : ∀ d ∈ ['(', '[', '*', '+', '?', '\x7b', '.', '^', '$'], isWordChar d = false := by
    simpa using (by decide : (['(', '[', '*', '+', '?', '\x7b', '.', '^', '$'].all (!isWordChar ·)) = true)
  simp only [List.forall_mem_cons] at hspecial
  simp only [hmodes, Bool.false_and, Bool.false_eq_true, if_false, hne, hspecial, bind_of_ok hcode]
  rfl

theorem readSequence_of_word {left : List Token} {fuel : Nat} {b : Bool} {items : List Item} {r : Reading}
    (hkey : ∀ c ∈ key, isWordChar c = true) (hrest : r.rest = key.map .plain ++ left) (hdangling : r.dangling = false)
    (hmodes : r.modes = {}) :
    readSequence (fuel + 1 + key.length) b items r =
      readSequence (fuel + 1) b ((key.map wordPart).reverse ++ items)
        { r with rest := left, offset := r.offset + key.length } := by
  induction key generalizing items r with
  | nil =>
    obtain rfl : r.rest = left := hrest
    rfl
  | cons c key ih =>
    obtain ⟨hc, hkey⟩ := List.forall_mem_cons.1 hkey
    have hne {d : Char} : isWordChar d = false → c ≠ d := ne_of_isWordChar hc
    have htake : take r = .ok (some (.plain c), { r with rest := key.map .plain ++ left, offset := r.offset + 1 }) := by
      rw [take_cons hrest, hdangling, Bool.and_false, if_neg Bool.noConfusion]
      rfl
    have hstep : readSequence (fuel + 1 + key.length + 1) b items r =
        readSequence (fuel + 1 + key.length) b (wordPart c :: items)
          { r with rest := key.map .plain ++ left, offset := r.offset + 1 } := by
      show (if r.rest.head? = some (.plain '|') || r.rest.head? = some (.plain ')') then _ else _ : ReadM _) r = _
      rw [hrest, if_neg (by simp [hne (d := '|') (by decide), hne (d := ')') (by decide)]), bind_of_ok htake]
      rw [Nat.add_right_comm]
      exact bind_of_ok (readPart_of_isWordChar hc hmodes)
    rw [List.length_cons, ← Nat.add_assoc, hstep,
      ih (r := { r with rest := key.map .plain ++ left, offset := r.offset + 1 }) hkey rfl hdangling hmodes]
    simp [Nat.add_assoc, Nat.add_comm 1]

/-- the parts of a word between word boundaries, last part first -/
def wholeWordParts (key : Text) : List Item :=
  ⟨wordBoundary, .zero, .anchor⟩ :: ((key.map wordPart).reverse ++ [⟨wordBoundary, .zero, .anchor⟩])

theorem fst_sequenceOf_wholeWordParts (key : Text) : (sequenceOf (wholeWordParts key)).1 = wholeWord key := by
  simp [sequenceOf, wholeWordParts, wholeWord, chars, wordPart, Function.comp_def]

/-- a sequence lacks nothing if no part of it does -/
theorem lack_sequenceOf {items : List Item} (h : ∀ i ∈ items, i.measure.lack = none) :
    (sequenceOf items).2.lack = none := by
  induction items with
  | nil => rfl
  | cons i rest ih =>
    obtain ⟨hi, hrest⟩ := List.forall_mem_cons.1 h
    have hlack : (sequenceOf (i :: rest)).2.lack = (sequenceOf rest).2.lack.or i.measure.lack := rfl
    rw [hlack, ih hrest, hi]
    rfl

theorem lack_wholeWordParts (key : Text) : (sequenceOf (wholeWordParts key)).2.lack = none := by
  refine lack_sequenceOf fun i hi => ?_
  simp only [wholeWordParts, List.mem_cons, List.mem_append, List.mem_reverse, List.mem_map, List.not_mem_nil,
    or_false] at hi
  obtain rfl | ⟨c, -, rfl⟩ | rfl := hi <;> rfl

/-- a word between word boundaries reads as its characters -/
theorem read_wrappedKey (hkey : IsWord key) : read (wrappedKey key) = .ok (wholeWord key) := by
  have hreading : reading (wrappedKey key) =
      { pattern := wrappedKey key, rest := .escape 'b' :: (key.map .plain ++ [.escape 'b']), dangling := false } := by
    rw [reading, tokens_wrappedKey (by rw [tokens_of_word hkey.all_word]), tokens_of_word hkey.all_word]
  have hfuel : 3 * (reading (wrappedKey key)).rest.length + 2 = 2 * key.length + 6 + 1 + key.length + 1 := by
    rw [hreading]
    simp
    omega
  have hsequence : readSequence (3 * (reading (wrappedKey key)).rest.length + 2) true [] (reading (wrappedKey key)) =
      .ok (sequenceOf (wholeWordParts key),
        { pattern := wrappedKey key, rest := [], dangling := false, offset := 0 + 2 + key.length + 2 }) := by
    rw [hfuel, hreading, readSequence_boundary rfl rfl rfl, readSequence_of_word hkey.all_word rfl rfl rfl,
      readSequence_boundary rfl rfl rfl, readSequence_end rfl]
    rfl
  have halternatives : readAlternatives (3 * (reading (wrappedKey key)).rest.length + 3) true
      (reading (wrappedKey key)) =
        .ok (sequenceOf (wholeWordParts key),
          { pattern := wrappedKey key, rest := [], dangling := false, offset := 0 + 2 + key.length + 2 }) := by
    rw [readAlternatives, bind_of_ok hsequence]
    rfl
  have hdangling : checkDangling (reading (wrappedKey key)) = .ok ((), reading (wrappedKey key)) := by
    rw [hreading]
    rfl
  show (readWhole (reading (wrappedKey key))).map Prod.fst = _
  rw [readWhole, bind_of_ok hdangling, get_then, bind_of_ok halternatives, ← fst_sequenceOf_wholeWordParts]
  have hlack := lack_wholeWordParts key
  revert hlack
  obtain ⟨p, least, most, lack⟩ := sequenceOf (wholeWordParts key)
  rintro rfl
  rfl

end Pattern

/-! ## A table of words -/

/-- what a table makes of a word: the first entry for it gives its value to the entries after it -/
def onWord : List (Text × Text) → Text → Text
  | [], w => w
  | (key, value) :: later, w => if w = key then mapRuns (onWord later) value else onWord later w

theorem onWord_of_notMem {entries : List (Text × Text)} {w : Text} (h : w ∉ entries.map Prod.fst) :
    onWord entries w = w := by
  induction entries with
  | nil => rfl
  | cons e later ih =>
    obtain ⟨hne, hlater⟩ := not_or.1 (mt List.mem_cons.2 h)
    rw [onWord, if_neg hne, ih hlater]

theorem onWord_append {earlier : List (Text × Text)} (later : List (Text × Text)) {w : Text}
    (h : w ∉ earlier.map Prod.fst) : onWord (earlier ++ later) w = onWord later w := by
  induction earlier with
  | nil => rfl
  | cons e earlier ih =>
    obtain ⟨hne, hearlier⟩ := not_or.1 (mt List.mem_cons.2 h)
    rw [List.cons_append, onWord, if_neg hne, ih hearlier]

namespace Edit

open Pattern

/-- the passes over a text, one for each entry, are one pass over its words -/
theorem replaceReserved_eq_mapRuns {entries : List (Text × Text)} (hkeys : ∀ k ∈ entries.map Prod.fst, IsWord k) :
    ∃ patterns, reservedPatterns entries = .ok patterns ∧ ∀ t, replaceReserved patterns t = mapRuns (onWord entries) t := by
  induction entries with
  | nil => exact ⟨[], rfl, fun t => (mapRuns_eq_self fun _ _ => rfl).symm⟩
  | cons e later ih =>
    obtain ⟨key, value⟩ := e
    obtain ⟨hkey, hlater⟩ := List.forall_mem_cons.1 hkeys
    obtain ⟨patterns, hpatterns, hpasses⟩ := ih hlater
    refine ⟨(wholeWord key, value) :: patterns, by simp only [reservedPatterns, read_wrappedKey hkey, hpatterns], ?_⟩
    intro t
    calc replaceReserved ((wholeWord key, value) :: patterns) t
        = replaceReserved patterns ((wholeWord key).replace (fun _ => value) t) := rfl
      _ = mapRuns (onWord later) (mapRuns (fun w => if w = key then value else w) t) := by
        rw [hpasses, replace_wholeWord hkey]
      _ = mapRuns (fun w => mapRuns (onWord later) (if w = key then value else w)) t := mapRuns_mapRuns _ _ t
      _ = mapRuns (onWord ((key, value) :: later)) t := by
        refine mapRuns_congr (fun w hw => ?_) t
        rw [onWord]
        split
        · rfl
        · exact mapRuns_isWord hw

/-- **Reserved words act on each run of word characters by itself**, when all of them are words. Nothing else changes, a
word without an entry stays, and the value of an entry is what the entries after it make of it. -/
theorem reserved_words_act_on_runs {tables : Tables} (hkeys : ∀ k ∈ tables.reservedWords.keys, IsWord k) :
    ∃ f : Text → Text, (∀ t, Step.apply tables .reservedWords t = .ok (f t)) ∧
      (∀ x y, Apart x y → f (x ++ y) = f x ++ f y) ∧
      (∀ t, (∀ c ∈ t, isWordChar c = false) → f t = t) ∧
      (∀ w, IsWord w → w ∉ tables.reservedWords.keys → f w = w) ∧
      ∀ earlier w value later, tables.reservedWords.entries = earlier ++ (w, value) :: later →
        ∀ rest : Tables, rest.reservedWords.entries = later → Step.apply rest .reservedWords value = .ok (f w) := by
  have hstep {tables : Tables} (hkeys : ∀ k ∈ tables.reservedWords.keys, IsWord k) (t : Text) :
      Step.apply tables .reservedWords t = .ok (mapRuns (onWord tables.reservedWords.entries) t) := by
    obtain ⟨patterns, hpatterns, hpasses⟩ := replaceReserved_eq_mapRuns hkeys
    rw [Step.apply, hpatterns, ← hpasses]
    rfl
  refine ⟨mapRuns (onWord tables.reservedWords.entries), hstep hkeys, fun x y => mapRuns_append, ?_, ?_, ?_⟩
  · intro t ht
    induction t with
    | nil => exact mapRuns_nil
    | cons c t ih =>
      obtain ⟨hc, ht⟩ := List.forall_mem_cons.1 ht
      rw [mapRuns_other t hc, ih ht]
  · intro w hw hnone
    rw [mapRuns_isWord hw, onWord_of_notMem hnone]
  · rintro earlier w value later hentries rest rfl
    have hnodup := tables.reservedWords.nodup
    rw [Table.keys, hentries] at hkeys
    rw [hentries] at hnodup ⊢
    rw [List.map_append, List.map_cons] at hnodup hkeys
    have hw : w ∉ earlier.map Prod.fst := fun hmem =>
      (List.nodup_append.1 hnodup).2.2 w hmem w List.mem_cons_self rfl
    rw [mapRuns_isWord (hkeys w (List.mem_append_right _ List.mem_cons_self)), onWord_append _ hw, onWord, if_pos rfl]
    exact hstep (fun k hk => hkeys k (List.mem_append_right _ (List.mem_cons_of_mem w hk))) value

/-- a value with words of later entries in it, one of which has no value -/
theorem later_words_in_value :
    let tables : Tables := { reservedWords := .ofList [("a", "b+c"), ("b", "x"), ("c", "")] }
    let later : Tables := { reservedWords := .ofList [("b", "x"), ("c", "")] }
    Step.apply later .reservedWords "b+c" = Step.apply tables .reservedWords "a" ∧
      Step.apply tables .reservedWords "a, a1" = .ok "x+, a1".toList := by
  intro tables later
  have hkeys : ∀ k ∈ tables.reservedWords.keys, IsWord k := by decide +kernel
  obtain ⟨f, hf, -, -, -, hvalue⟩ := reserved_words_act_on_runs hkeys
  refine ⟨?_, by decide +kernel⟩
  rw [hf]
  exact hvalue [] "a" "b+c" _ rfl later rfl

end Edit

end Linewise
