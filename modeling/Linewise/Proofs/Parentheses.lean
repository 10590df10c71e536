/-
Parentheses through the edits.

The edits move, insert and delete parentheses: a call of a mapped name loses both of its own, formatting and constructor
calls have theirs written anew, and the receiver before one goes. `KeepsBalance` is what all of them have in common: where
opening parentheses go, as many closing ones go with them. It holds of a text when it holds of its parts
(`KeepsBalance.flatMap`), so a replacement keeps the balance if it does so at every occurrence (`KeepsBalance.replace`), and
for that it is enough to know which texts the pattern reads.

`edits_keep_balance`: so does every step, and any sequence of steps, however unbalanced the text is.
-/
import Linewise.Proofs.Edits

namespace Linewise

open Pattern

/-! ## Texts without parentheses -/

/-- no parenthesis is in the text -/
def Unbracketed (t : Text) : Prop := ∀ c ∈ t, isInner c = true

instance : DecidablePred Unbracketed := fun t => decidable_of_iff (t.all isInner = true) List.all_eq_true

namespace Unbracketed

variable {t u : Text}

theorem count_opening (h : Unbracketed t) : t.count '(' = 0 :=
  List.count_eq_zero.2 fun hmem => absurd (h '(' hmem) (by decide)

theorem count_closing (h : Unbracketed t) : t.count ')' = 0 :=
  List.count_eq_zero.2 fun hmem => absurd (h ')' hmem) (by decide)

theorem append (ht : Unbracketed t) (hu : Unbracketed u) : Unbracketed (t ++ u) :=
  fun c hc => (List.mem_append.1 hc).elim (ht c) (hu c)

end Unbracketed

/-! ## What keeps the balance -/

/-- `u` has no more parentheses than `t` of either kind, and as many more opening than closing ones as `t` -/
structure KeepsBalance (t u : Text) : Prop where
  difference : (u.count '(' : Int) - u.count ')' = t.count '(' - t.count ')'
  opening : u.count '(' ≤ t.count '('
  closing : u.count ')' ≤ t.count ')'

namespace KeepsBalance

variable {t u v w : Text}

theorem refl (t : Text) : KeepsBalance t t := ⟨rfl, Nat.le_refl _, Nat.le_refl _⟩

theorem trans (h : KeepsBalance t u) (h' : KeepsBalance u v) : KeepsBalance t v :=
  ⟨h'.difference.trans h.difference, Nat.le_trans h'.opening h.opening, Nat.le_trans h'.closing h.closing⟩

theorem append (h : KeepsBalance t u) (h' : KeepsBalance v w) : KeepsBalance (t ++ v) (u ++ w) := by
  obtain ⟨hdifference, hopening, hclosing⟩ := h
  obtain ⟨hdifference', hopening', hclosing'⟩ := h'
  refine ⟨?_, ?_, ?_⟩ <;> simp only [List.count_append] <;> omega

/-- `n` opening parentheses go, and as many closing ones -/
theorem of_pairs (n : Nat) (hopening : t.count '(' = u.count '(' + n) (hclosing : t.count ')' = u.count ')' + n) :
    KeepsBalance t u := by
  refine ⟨?_, ?_, ?_⟩ <;> omega

theorem of_unbracketed (ht : Unbracketed t) (hu : Unbracketed u) : KeepsBalance t u :=
  of_pairs 0 (by rw [ht.count_opening, hu.count_opening]) (by rw [ht.count_closing, hu.count_closing])

theorem flatMap {α : Type} {f g : α → Text} {xs : List α} (h : ∀ x ∈ xs, KeepsBalance (f x) (g x)) :
    KeepsBalance (xs.flatMap f) (xs.flatMap g) := by
  induction xs with
  | nil => exact refl []
  | cons x xs ih =>
    obtain ⟨hx, hxs⟩ := List.forall_mem_cons.1 h
    exact hx.append (ih hxs)

/-- a replacement keeps the balance of a text, if it does so at every text that the pattern reads -/
theorem replace {p : Pattern} {replacement : Hit → Text}
    (h : ∀ g : Hit, Reads p [] g.text g.found.groups → KeepsBalance g.text (replacement g)) (t : Text) :
    KeepsBalance t (p.replace replacement t) := by
  have hpieces : KeepsBalance ((pieces p t).flatMap (Piece.replaced Hit.text))
      ((pieces p t).flatMap (Piece.replaced replacement)) := by
    refine flatMap fun piece hmem => ?_
    cases piece with
    | kept c => exact refl [c]
    | hit g => exact h g (matches_of_mem_piecesFrom hmem).2.reads
  rwa [flatMap_pieces] at hpieces

/-- no parenthesis is read and none is put there -/
theorem replace_unbracketed {p : Pattern} {value : Text} (hp : ReadsOnly (isInner · = true) p) (hvalue : Unbracketed value)
    (t : Text) : KeepsBalance t (p.replace (fun _ => value) t) :=
  replace (fun g hg => of_unbracketed (hp [] g.text g.found.groups hg) hvalue) t

end KeepsBalance

namespace Edit

/-! ## Strings, constructors and the receiver -/

section Fixed

variable {s : Text} {gs : List (Nat × Text)}

theorem exists_of_reads_rawString (h : Reads rawString [] s gs) :
    ∃ quote content, isInner quote = true ∧ s = ['r', quote] ++ (content ++ [quote]) ∧
      gs = [(2, content), (1, [quote])] := by
  simp only [rawString, wordBoundary, oneOf, Pattern.any, reads_ofList_cons_iff, reads_ofList_nil_iff, reads_anchor_iff,
    reads_char_iff, reads_group_iff, reads_one_iff, reads_many_one_iff, reads_backReference_iff, existsAndEq, and_true,
    true_and, exists_and_left, List.append_nil, List.nil_append, List.cons_append] at h
  obtain ⟨quote, content, again, rfl, hquote, -, hagain, rfl⟩ := h
  obtain rfl : [quote] = again := Option.some.inj hagain
  refine ⟨quote, content, ?_, rfl, rfl⟩
  refine isInner_of_class (p := (CharSet.mk _ false).contains .exact) ?_ ?_ hquote
  · decide
  · decide

theorem exists_of_reads_formatIn {quote : Char} (h : Reads (formatIn quote) [] s gs) :
    ∃ string gap, Unbracketed gap ∧ s = string ++ (gap ++ ['(']) ∧ gs = [(1, string)] := by
  simp only [formatIn, Pattern.star, noneOf, blank, reads_ofList_cons_iff, reads_ofList_nil_iff, reads_char_iff,
    reads_group_iff, reads_many_one_iff, CharSet.contains_blank, existsAndEq, and_true, true_and, List.append_nil,
    List.nil_append, List.cons_append] at h
  obtain ⟨content, before, after, rfl, -, hbefore, hafter, rfl⟩ := h
  refine ⟨quote :: (content ++ [quote]), before ++ '%' :: after, ?_, by simp, rfl⟩
  refine .append (fun c hc => isInner_of_isBlank (hbefore c hc)) (List.forall_mem_cons.2 ⟨by decide, ?_⟩)
  exact fun c hc => isInner_of_isBlank (hafter c hc)

theorem exists_of_reads_constructorCall (h : Reads constructorCall [] s gs) :
    ∃ name, s = name ++ ['('] ∧ gs = [(1, name)] := by
  simp only [constructorCall, wordBoundary, Pattern.star, wordChar, reads_ofList_cons_iff, reads_ofList_nil_iff,
    reads_anchor_iff, reads_char_iff, reads_group_iff, reads_one_iff, reads_many_one_iff, existsAndEq, and_true,
    true_and, List.append_nil, List.nil_append, List.cons_append] at h
  obtain ⟨name, first, rfl, -, rfl⟩ := h
  exact ⟨first :: name, rfl, rfl⟩

theorem exists_of_reads_selfCall (h : Reads selfCall [] s gs) :
    ∃ name, s = "self." ++ (name ++ ['(']) ∧ gs = [(1, name)] := by
  simp only [selfCall, wordBoundary, plus, Pattern.star, wordChar, blank, List.cons_append, reads_ofList_cons_iff,
    reads_ofList_nil_iff, reads_chars_append_iff, reads_anchor_iff, reads_char_iff, reads_group_iff, reads_many_one_iff,
    existsAndEq, and_true, true_and, List.append_nil, List.nil_append] at h
  obtain ⟨name, space, rfl, -, rfl⟩ := h
  exact ⟨name ++ space, by simp, rfl⟩

end Fixed

/-- the content of a raw string stays as it is -/
theorem keepsBalance_replaceRawStrings (t : Text) : KeepsBalance t (replaceRawStrings t) := by
  refine .replace (fun g hg => ?_) t
  obtain ⟨quote, content, hquote, htext, hgroups⟩ := exists_of_reads_rawString hg
  rw [htext, Hit.group_eq hgroups, List.append_assoc]
  have hopening : Unbracketed ['r', quote] := List.forall_mem_cons.2 ⟨by decide, by simpa using hquote⟩
  have hclosing : Unbracketed [quote] := by simpa [Unbracketed] using hquote
  exact .append (.of_unbracketed hopening (by decide)) (.append (.refl content) (.of_unbracketed hclosing (by decide)))

/-- the parenthesis after the sign comes before the string instead -/
theorem keepsBalance_replaceFormatIn (quote : Char) (t : Text) : KeepsBalance t (replaceFormatIn quote t) := by
  refine .replace (fun g hg => ?_) t
  obtain ⟨string, gap, hgap, htext, hgroups⟩ := exists_of_reads_formatIn hg
  rw [htext, Hit.group_eq hgroups]
  refine .of_pairs 0 ?_ ?_
  · simp [hgap.count_opening]
  · simp [hgap.count_closing]

theorem keepsBalance_replaceFormats (t : Text) : KeepsBalance t (replaceFormats t) :=
  (keepsBalance_replaceFormatIn '"' t).trans (keepsBalance_replaceFormatIn '\'' _)

theorem keepsBalance_replaceConstructors (t : Text) : KeepsBalance t (replaceConstructors t) := by
  rw [replaceConstructors]
  split
  · exact .refl t
  · refine .replace (fun g hg => ?_) t
    obtain ⟨name, htext, hgroups⟩ := exists_of_reads_constructorCall hg
    rw [htext, Hit.group_eq hgroups]
    exact .append (.refl name) (.of_pairs 0 (by decide) (by decide))

/-- the receiver goes, and with it no parenthesis -/
theorem keepsBalance_replaceSelf (t : Text) : KeepsBalance t (replaceSelf t) := by
  refine .trans (.replace (fun g hg => ?_) t) (.replace_unbracketed (readsOnly_ofList ?_) (by decide) _)
  · obtain ⟨name, htext, hgroups⟩ := exists_of_reads_selfCall hg
    rw [htext, Hit.group_eq hgroups]
    have hreceiver : KeepsBalance "self." [] := .of_unbracketed (by decide) (by decide)
    exact hreceiver.append (.refl (name ++ ['(']))
  · have hself : Unbracketed "self." := by decide
    refine List.forall_mem_cons.2 ⟨readsOnly_anchor, List.forall_mem_append.2 ⟨readsOnly_of_mem_chars hself, ?_⟩⟩
    exact List.forall_mem_singleton.2 (readsOnly_many_one (by simp [isInner]))

/-! ## Calls -/

/-- a call keeps its parentheses, or loses both -/
theorem keepsBalance_renamed {tables : Tables} (hmethods : ∀ e ∈ tables.functionsToMethods.entries, Unbracketed e.2)
    (hfunctions : ∀ e ∈ tables.functionsToFunctions.entries, Unbracketed e.2) (c : BareCall) :
    KeepsBalance c.text (c.renamed tables) := by
  have hhead : Unbracketed (c.name ++ c.space) := c.isInner_of_mem_head
  have harguments : Unbracketed c.arguments := c.arguments_inner
  -- the parentheses of the call and what is between them, after another name
  have hrenamed (name : Text) (hname : Unbracketed name) :
      KeepsBalance c.text (name ++ '(' :: (c.arguments ++ [')'])) := by
    rw [c.text_eq]
    exact .append (.of_unbracketed hhead hname) (.refl _)
  rw [BareCall.renamed]
  split
  · rename_i method hmethod
    have hmethod : Unbracketed ('.' :: method) :=
      List.forall_mem_cons.2 ⟨by decide, hmethods (c.name, method) (Table.mem_of_get? hmethod)⟩
    split
    · have hreceiver : Unbracketed (c.arguments ++ '.' :: method) := harguments.append hmethod
      refine .of_pairs 1 ?_ ?_
      · rw [hreceiver.count_opening, c.text_eq, List.count_append, hhead.count_opening, List.count_cons_self,
          List.count_append, harguments.count_opening]
        rfl
      · rw [hreceiver.count_closing, c.text_eq, List.count_append, hhead.count_closing, List.count_cons_of_ne (by decide),
          List.count_append, harguments.count_closing]
        rfl
    · have hcalled : KeepsBalance [] ('.' :: method) := .of_unbracketed (by decide) hmethod
      simpa using (hrenamed [] (by decide)).append hcalled
  · rename_i function _ hfunction
    exact hrenamed function (hfunctions (c.name, function) (Table.mem_of_get? hfunction))
  · exact .refl c.text

theorem keepsBalance_replaceCalls {tables : Tables}
    (hmethods : ∀ e ∈ tables.functionsToMethods.entries, Unbracketed e.2)
    (hfunctions : ∀ e ∈ tables.functionsToFunctions.entries, Unbracketed e.2) (t : Text) :
    KeepsBalance t (replaceCalls tables t) := by
  obtain ⟨segments, hsegments, hrenamed⟩ := exists_segments tables t
  have hkeeps : KeepsBalance (segments.flatMap Segment.text) (segments.flatMap (Segment.renamed tables)) := by
    refine .flatMap fun s _ => ?_
    cases s with
    | other x => exact .refl [x]
    | call c => exact keepsBalance_renamed hmethods hfunctions c
  rwa [hsegments.flatMap_text, ← hrenamed] at hkeeps

/-! ## Reserved words -/

/-- a key of a table of reserved words that is a text of word characters, or allows blanks as two of the standard ones do -/
def IsPlainKey (key : Text) : Prop :=
  (∀ c ∈ key, isWordChar c = true) ∨ key = "\\s*is\\s+not" ∨ key = "\\s*is"

instance : DecidablePred IsPlainKey := fun key =>
  decidable_of_iff (key.all isWordChar = true ∨ key = "\\s*is\\s+not" ∨ key = "\\s*is") (by rw [List.all_eq_true]; rfl)

/-- two keys of the standard table, between word boundaries, and the empty key -/
theorem read_unwordly :
    Pattern.read (wrappedKey []) = .ok (wholeWord []) ∧
      Pattern.read (wrappedKey "\\s*is\\s+not") = .ok (spacedIs (plus blank :: chars "not")) ∧
      Pattern.read (wrappedKey "\\s*is") = .ok (spacedIs []) := by
  decide +kernel

theorem readsOnly_wholeWord {key : Text} (hkey : ∀ c ∈ key, isWordChar c = true) :
    ReadsOnly (isInner · = true) (wholeWord key) := by
  refine readsOnly_ofList (List.forall_mem_cons.2 ⟨readsOnly_anchor, List.forall_mem_append.2 ⟨?_, ?_⟩⟩)
  · exact readsOnly_of_mem_chars fun c hc => isInner_of_isWordChar (hkey c hc)
  · exact List.forall_mem_singleton.2 readsOnly_anchor

theorem readsOnly_blanks {least : Nat} {most : Option Nat} {greed : Greed} :
    ReadsOnly (isInner · = true) (.many blank least most greed) :=
  readsOnly_many_one fun c hc => isInner_of_isBlank (by simpa using hc)

theorem readsOnly_spacedIs {more : List Pattern} (hmore : ∀ p ∈ more, ReadsOnly (isInner · = true) p) :
    ReadsOnly (isInner · = true) (spacedIs more) := by
  have his : Unbracketed "is" := by decide
  refine readsOnly_ofList (List.forall_mem_cons.2 ⟨readsOnly_anchor, List.forall_mem_cons.2 ⟨readsOnly_blanks, ?_⟩⟩)
  refine List.forall_mem_append.2 ⟨readsOnly_of_mem_chars his, List.forall_mem_append.2 ⟨hmore, ?_⟩⟩
  exact List.forall_mem_singleton.2 readsOnly_anchor

/-- such a key reads as a pattern, and the pattern reads no parenthesis -/
theorem IsPlainKey.exists_read {key : Text} (h : IsPlainKey key) :
    ∃ p, Pattern.read (wrappedKey key) = .ok p ∧ ReadsOnly (isInner · = true) p := by
  obtain ⟨hempty, hisNot, his⟩ := read_unwordly
  rcases h with hword | rfl | rfl
  · refine ⟨wholeWord key, ?_, readsOnly_wholeWord hword⟩
    cases key with
    | nil => exact hempty
    | cons c key => exact read_wrappedKey ⟨List.cons_ne_nil c key, hword⟩
  · have hnot : Unbracketed "not" := by decide
    exact ⟨_, hisNot, readsOnly_spacedIs (List.forall_mem_cons.2 ⟨readsOnly_blanks, readsOnly_of_mem_chars hnot⟩)⟩
  · exact ⟨_, his, readsOnly_spacedIs (by rintro _ ⟨⟩)⟩

/-- every pass over the text keeps the balance -/
theorem exists_reservedPatterns_keepsBalance {entries : List (Text × Text)}
    (hkeys : ∀ k ∈ entries.map Prod.fst, IsPlainKey k) (hvalues : ∀ e ∈ entries, Unbracketed e.2) :
    ∃ patterns, reservedPatterns entries = .ok patterns ∧ ∀ t, KeepsBalance t (replaceReserved patterns t) := by
  induction entries with
  | nil => exact ⟨[], rfl, .refl⟩
  | cons e later ih =>
    obtain ⟨key, value⟩ := e
    obtain ⟨hkey, hkeys⟩ := List.forall_mem_cons.1 hkeys
    obtain ⟨hvalue, hvalues⟩ := List.forall_mem_cons.1 hvalues
    obtain ⟨p, hread, hp⟩ := IsPlainKey.exists_read hkey
    obtain ⟨patterns, hpatterns, hkeeps⟩ := ih hkeys hvalues
    refine ⟨(p, value) :: patterns, by simp only [reservedPatterns, hread, hpatterns], fun t => ?_⟩
    exact .trans (.replace_unbracketed hp hvalue t) (hkeeps _)

/-! ## All steps -/

/-- no value of the tables has a parenthesis, and every reserved word is plain, so that none is read for it -/
structure PlainTables (tables : Tables) : Prop where
  values : ∀ kind, ∀ e ∈ (tables.table kind).entries, Unbracketed e.2
  keys : ∀ k ∈ tables.reservedWords.keys, IsPlainKey k

/-- what a step gives, and that it gives something -/
theorem Step.exists_apply_keepsBalance {tables : Tables} (h : PlainTables tables) (step : Step) (t : Text) :
    ∃ u, step.apply tables t = .ok u ∧ KeepsBalance t u := by
  cases step with
  | rawString => exact ⟨_, rfl, keepsBalance_replaceRawStrings t⟩
  | format => exact ⟨_, rfl, keepsBalance_replaceFormats t⟩
  | call => exact ⟨_, rfl, keepsBalance_replaceCalls (h.values .functionsToMethods) (h.values .functionsToFunctions) t⟩
  | constructor => exact ⟨_, rfl, keepsBalance_replaceConstructors t⟩
  | reservedWords =>
    obtain ⟨patterns, hpatterns, hkeeps⟩ := exists_reservedPatterns_keepsBalance h.keys (h.values .reservedWords)
    refine ⟨replaceReserved patterns t, ?_, hkeeps t⟩
    rw [apply, hpatterns]
    rfl
  | selfReference => exact ⟨_, rfl, keepsBalance_replaceSelf t⟩

theorem exists_run_keepsBalance {tables : Tables} (h : PlainTables tables) (steps : List Step) (t : Text) :
    ∃ u, run tables steps t = .ok u ∧ KeepsBalance t u := by
  induction steps generalizing t with
  | nil => exact ⟨t, rfl, .refl t⟩
  | cons step rest ih =>
    obtain ⟨u, happly, hstep⟩ := step.exists_apply_keepsBalance h t
    obtain ⟨v, hrun, hrest⟩ := ih u
    refine ⟨v, ?_, hstep.trans hrest⟩
    rw [run, happly]
    exact hrun

/-- **The edits keep the balance of parentheses.** When no value of the tables has a parenthesis and the reserved words are
plain, every step takes every text, leaves the difference between its opening and its closing parentheses as it is, and adds
to neither. So does any sequence of steps. -/
theorem edits_keep_balance {tables : Tables} (h : PlainTables tables) :
    (∀ step t, ∃ u, Step.apply tables step t = .ok u ∧ KeepsBalance t u) ∧
      ∀ steps t, ∃ u, run tables steps t = .ok u ∧ KeepsBalance t u :=
  ⟨Step.exists_apply_keepsBalance h, exists_run_keepsBalance h⟩

/-- the standard tables, on a text with more opening parentheses than closing ones -/
theorem edits_keep_standard_balance :
    let t : Text := "self.add(Foo(\"%d\" % (len(x), y is not None))) + (len (z)"
    let u : Text := "add(Foo.new(sprintf(\"%d\", x.length, y.not_equal? nil))) + (z.length"
    PlainTables .standard ∧ run .standard Step.all t = .ok u ∧ KeepsBalance t u := by
  intro t u
  have hplain : PlainTables .standard := by
    refine ⟨?_, ?_⟩
    · rintro ⟨⟩ <;> decide +kernel
    · decide +kernel
  obtain ⟨v, hrun, hkeeps⟩ := (edits_keep_balance hplain).2 Step.all t
  have hu : run .standard Step.all t = .ok u := by decide +kernel
  obtain rfl : v = u := Except.ok.inj (hrun.symm.trans hu)
  exact ⟨hplain, hu, hkeeps⟩

end Edit

end Linewise
