/-
Occurrences of a pattern in a text.

The text of an occurrence is one that the pattern reads (`Hit.Matches.reads`), and the occurrences and the characters
between them, put one after another, give back the text they were found in (`flatMap_pieces`). `Cuts` says how a text falls
apart when no match is empty: at each place the pattern's match is an occurrence, and where there is none one character is
kept (`cuts_pieces`). A text without an occurrence stays as it is (`replace_eq_self`), and in a text with one occurrence what
stands around it stays (`replace_single`).
-/
import Linewise.Pattern.Pieces
import Linewise.Proofs.Pattern.Language

namespace Linewise.Pattern

/-! ## Places of one text -/

theorem Place.mem_text {p : Place} {c : Char} (h : c ∈ p.after) : c ∈ p.text := List.mem_append_right _ h

theorem Place.text_eq {p : Place} {t : Text} (h : p.after = t) : p.text = p.before.reverse ++ t := by rw [Place.text, h]

@[simp] theorem Place.upTo_append (before taken left : Text) :
    Place.upTo ⟨before, taken ++ left⟩ ⟨taken.reverse ++ before, left⟩ = taken :=
  Place.Leads.upTo_eq ⟨rfl, rfl⟩

/-! ## One occurrence -/

/-- what a match at a place is -/
theorem eq_of_matchAt {p : Pattern} {place : Place} {h : Hit} (hmatch : matchAt p place = some h) :
    h.begins = place ∧ run p some ⟨place, []⟩ = some h.found ∧ ∃ taken, place.Leads taken h.found.place := by
  obtain ⟨found, hrun, rfl⟩ := Option.map_eq_some_iff.1 hmatch
  obtain ⟨f', taken, hlead, -, hsome⟩ := acceptedAfter_of_run hrun
  obtain rfl := Option.some.inj hsome
  exact ⟨rfl, hrun, taken, hlead⟩

theorem matchAt_eq_none {p : Pattern} {place : Place} (h : (run p some ⟨place, []⟩).isSome ≠ true) :
    matchAt p place = none := by
  rw [matchAt, Option.not_isSome_iff_eq_none.1 h]
  rfl

theorem isSome_of_matchAt {p : Pattern} {place : Place} {h : Hit} (hmatch : matchAt p place = some h) :
    (run p some ⟨place, []⟩).isSome = true := by
  rw [(eq_of_matchAt hmatch).2.1]
  rfl

/-- the pattern can match from where the occurrence begins to where it ends, whatever else is asked of the end -/
def Hit.Matches (p : Pattern) (h : Hit) : Prop :=
  ∃ k : Found → Option Found, (∀ f g, k f = some g → f = g) ∧ run p k ⟨h.begins, []⟩ = some h.found

/-- the pattern reads the text of an occurrence -/
theorem Hit.Matches.reads {p : Pattern} {h : Hit} (hmatches : h.Matches p) : Reads p [] h.text h.found.groups := by
  obtain ⟨k, hsame, hrun⟩ := hmatches
  obtain ⟨f, taken, hlead, hreads, hk⟩ := acceptedAfter_of_run hrun
  obtain rfl := hsame f h.found hk
  rwa [Hit.text, hlead.upTo_eq]

/-- what a group of an occurrence remembers -/
theorem Hit.group_eq {h : Hit} {groups : List (Nat × Text)} {index : Nat} (hgroups : h.found.groups = groups) :
    h.group index = (groups.lookup index).getD [] := by
  rw [Hit.group, Found.group, Found.group?, hgroups]

theorem matches_of_matchAt {p : Pattern} {place : Place} {h : Hit} (hmatch : matchAt p place = some h) :
    h.begins = place ∧ h.Matches p := by
  obtain ⟨rfl, hrun, -⟩ := eq_of_matchAt hmatch
  exact ⟨rfl, some, fun f g => Option.some.inj, hrun⟩

theorem matches_of_matchBeyond {p : Pattern} {place : Place} {h : Hit} (hmatch : matchBeyond p place = some h) :
    h.begins = place ∧ h.Matches p := by
  obtain ⟨found, hrun, rfl⟩ := Option.map_eq_some_iff.1 hmatch
  refine ⟨rfl, _, fun f g hk => ?_, hrun⟩
  split at hk
  · cases hk
  · exact Option.some.inj hk

theorem matches_of_mem_hitsAt {p : Pattern} {place : Place} {h : Hit} (hmem : h ∈ (hitsAt p place).1) :
    h.begins = place ∧ h.Matches p := by
  rw [hitsAt] at hmem
  cases hmatch : matchAt p place with
  | none => rw [hmatch] at hmem; cases hmem
  | some first =>
    have hfirst := matches_of_matchAt hmatch
    simp only [hmatch] at hmem
    split at hmem
    · obtain rfl := List.mem_singleton.1 hmem
      exact hfirst
    · cases hbeyond : matchBeyond p place with
      | none =>
        rw [hbeyond] at hmem
        obtain rfl := List.mem_singleton.1 hmem
        exact hfirst
      | some second =>
        rw [hbeyond] at hmem
        rcases List.mem_cons.1 hmem with rfl | hmem
        · exact hfirst
        · obtain rfl := List.mem_singleton.1 hmem
          exact matches_of_matchBeyond hbeyond

/-- every occurrence in a text was matched at a place of the text -/
theorem matches_of_mem_piecesFrom {p : Pattern} {before after : List Char} {skip : Nat} {h : Hit}
    (hmem : Piece.hit h ∈ piecesFrom p before after skip) :
    h.begins.text = before.reverse ++ after ∧ h.Matches p := by
  have hat : ∀ {before after : List Char}, Piece.hit h ∈ (hitsAt p ⟨before, after⟩).1.map Piece.hit →
      h.begins.text = before.reverse ++ after ∧ h.Matches p := by
    intro before after hmem
    obtain ⟨h', hmem', heq⟩ := List.mem_map.1 hmem
    obtain rfl := Piece.hit.inj heq
    obtain ⟨hbegins, hmatches⟩ := matches_of_mem_hitsAt hmem'
    exact ⟨by rw [hbegins, Place.text], hmatches⟩
  fun_induction piecesFrom p before after skip with
  | case1 before c rest skip ih => simpa using ih hmem
  | case2 => cases hmem
  | case3 before => exact hat hmem
  | case4 before c rest hits heq ih =>
    rcases List.mem_append.1 hmem with hmem | hmem
    · exact hat (by rwa [heq])
    · simpa using ih (by simpa using hmem)
  | case5 before c rest hits n heq ih =>
    rcases List.mem_append.1 hmem with hmem | hmem
    · exact hat (by rwa [heq])
    · simpa using ih hmem

theorem matches_of_mem_hits {p : Pattern} {t : Text} {h : Hit} (hmem : h ∈ hits p t) :
    h.begins.text = t ∧ h.Matches p := by
  obtain ⟨piece, hpiece, heq⟩ := List.mem_filterMap.1 hmem
  cases piece with
  | kept c => cases heq
  | hit h' =>
    obtain rfl := Option.some.inj heq
    exact matches_of_mem_piecesFrom hpiece

/-! ## Occurrences put back -/

/-- the occurrences at a place are the characters that they take -/
theorem flatMap_hitsAt (p : Pattern) (place : Place) :
    (hitsAt p place).1.flatMap Hit.text = place.after.take (hitsAt p place).2 := by
  have htext : ∀ h : Hit, h.begins = place → h.text = place.after.take h.length := by
    rintro h rfl
    rfl
  rw [hitsAt]
  cases hmatch : matchAt p place with
  | none => rfl
  | some h =>
    have hfirst := htext h (matches_of_matchAt hmatch).1
    simp only
    split
    · simpa using hfirst
    · rename_i hempty
      rw [Decidable.of_not_not hempty, List.take_zero] at hfirst
      cases hbeyond : matchBeyond p place with
      | none => simpa using hfirst
      | some g => simpa [hfirst] using htext g (matches_of_matchBeyond hbeyond).1

theorem flatMap_piecesFrom (p : Pattern) (before after : List Char) (skip : Nat) :
    (piecesFrom p before after skip).flatMap (Piece.replaced Hit.text) = after.drop skip := by
  have hhits : ∀ hits : List Hit, (hits.map Piece.hit).flatMap (Piece.replaced Hit.text) = hits.flatMap Hit.text :=
    fun hits => List.flatMap_map Piece.hit _ hits
  fun_induction piecesFrom p before after skip with
  | case1 before c rest skip ih => exact ih
  | case2 => rfl
  | case3 before => rw [hhits, flatMap_hitsAt, List.take_nil, List.drop_nil]
  | case4 before c rest hits heq ih =>
    have hnone := flatMap_hitsAt p ⟨before, c :: rest⟩
    rw [heq] at hnone
    rw [List.flatMap_append, hhits, hnone, List.flatMap_cons, ih]
    rfl
  | case5 before c rest hits n heq ih =>
    have htaken := flatMap_hitsAt p ⟨before, c :: rest⟩
    rw [heq] at htaken
    rw [List.flatMap_append, hhits, htaken, ih]
    exact List.take_append_drop (n + 1) (c :: rest)

/-- **The pieces of a text give the text back.** Replacing every occurrence by its own characters changes nothing. -/
theorem flatMap_pieces (p : Pattern) (t : Text) : (pieces p t).flatMap (Piece.replaced Hit.text) = t :=
  flatMap_piecesFrom p [] t 0

/-! ## All occurrences, when none is empty -/

theorem piecesFrom_skip (p : Pattern) (before taken left : List Char) :
    piecesFrom p before (taken ++ left) taken.length = piecesFrom p (taken.reverse ++ before) left 0 := by
  induction taken generalizing before with
  | nil => rfl
  | cons c taken ih =>
    rw [List.cons_append, List.length_cons, piecesFrom, ih]
    simp

theorem piecesFrom_of_none {p : Pattern} {before : List Char} {c : Char} {rest : List Char}
    (hnone : matchAt p ⟨before, c :: rest⟩ = none) :
    piecesFrom p before (c :: rest) 0 = .kept c :: piecesFrom p (c :: before) rest 0 := by
  rw [piecesFrom, hitsAt, hnone]
  rfl

theorem piecesFrom_nil_of_none {p : Pattern} {before : List Char} (hnone : matchAt p ⟨before, []⟩ = none) :
    piecesFrom p before [] 0 = [] := by
  rw [piecesFrom, hitsAt, hnone]
  rfl

theorem piecesFrom_of_match {p : Pattern} {before taken left : List Char} {h : Hit}
    (hmatch : matchAt p ⟨before, taken ++ left⟩ = some h) (hend : h.found.place = ⟨taken.reverse ++ before, left⟩)
    (htaken : taken ≠ []) :
    piecesFrom p before (taken ++ left) 0 = .hit h :: piecesFrom p (taken.reverse ++ before) left 0 := by
  obtain ⟨c, taken, rfl⟩ := List.exists_cons_of_ne_nil htaken
  have hbegins := (eq_of_matchAt hmatch).1
  have hlead : Place.Leads ⟨before, c :: taken ++ left⟩ (c :: taken) h.found.place := by
    rw [hend]
    exact ⟨rfl, rfl⟩
  have hlength : h.length = taken.length + 1 := by
    rw [Hit.length, hbegins, hlead.offset_eq, Nat.add_sub_cancel_left, List.length_cons]
  have hhits : hitsAt p ⟨before, c :: taken ++ left⟩ = ([h], taken.length + 1) := by
    rw [hitsAt, hmatch]
    simp only
    rw [if_pos (by omega), hlength]
  rw [List.cons_append] at hhits ⊢
  rw [piecesFrom, hhits]
  show .hit h :: piecesFrom p (c :: before) (taken ++ left) taken.length = _
  rw [piecesFrom_skip]
  simp

/-- how the text from a place on falls apart when no match is empty -/
inductive Cuts (p : Pattern) : Place → List Piece → Prop
  | nil {before : List Char} (hnone : matchAt p ⟨before, []⟩ = none) : Cuts p ⟨before, []⟩ []
  | kept {before : List Char} {c : Char} {rest : List Char} {ps : List Piece}
    (hnone : matchAt p ⟨before, c :: rest⟩ = none) (hrest : Cuts p ⟨c :: before, rest⟩ ps) :
    Cuts p ⟨before, c :: rest⟩ (.kept c :: ps)
  | hit {place : Place} {h : Hit} {ps : List Piece} (hmatch : matchAt p place = some h)
    (hrest : Cuts p h.found.place ps) : Cuts p place (.hit h :: ps)

theorem cuts_piecesFrom {p : Pattern} {before after : List Char}
    (hne : ∀ q h, q.text = before.reverse ++ after → matchAt p q = some h → h.length ≠ 0) :
    Cuts p ⟨before, after⟩ (piecesFrom p before after 0) := by
  induction hn : after.length using Nat.strongRecOn generalizing before after with
  | ind n ih =>
    subst hn
    cases hmatch : matchAt p ⟨before, after⟩ with
    | none =>
      cases after with
      | nil =>
        rw [piecesFrom_nil_of_none hmatch]
        exact .nil hmatch
      | cons c rest =>
        rw [piecesFrom_of_none hmatch]
        exact .kept hmatch (ih _ (Nat.lt_succ_self _) (fun q h hq => hne q h (by simpa using hq)) rfl)
    | some h =>
      obtain ⟨hbegins, -, taken, hlead⟩ := eq_of_matchAt hmatch
      have htaken : taken ≠ [] := by
        rintro rfl
        refine hne ⟨before, after⟩ h rfl hmatch ?_
        rw [Hit.length, hbegins, hlead.offset_eq, List.length_nil, Nat.add_zero, Nat.sub_self]
      obtain ⟨rfl, hbefore⟩ : after = taken ++ h.found.place.after ∧ h.found.place.before = taken.reverse ++ before := hlead
      rw [piecesFrom_of_match hmatch (by rw [← hbefore]) htaken, ← hbefore]
      refine .hit hmatch ?_
      have hshorter : h.found.place.after.length < (taken ++ h.found.place.after).length := by
        have := List.length_pos_iff.2 htaken
        rw [List.length_append]
        omega
      refine ih _ hshorter (fun q h' hq => hne q h' ?_) rfl
      rw [hq, hbefore]
      simp

/-- the pieces of a text in which no match is empty -/
theorem cuts_pieces {p : Pattern} {t : Text} (hne : ∀ q h, q.text = t → matchAt p q = some h → h.length ≠ 0) :
    Cuts p (.start t) (pieces p t) :=
  cuts_piecesFrom hne

/-! ## No occurrence, and a single one -/

/-- as long as the pattern matches nowhere, the characters are kept -/
theorem replaced_append_of_none {p : Pattern} (replacement : Hit → Text) {before t left : Text}
    (hnone : ∀ u c v, t = u ++ c :: v → matchAt p ⟨u.reverse ++ before, c :: (v ++ left)⟩ = none) :
    (piecesFrom p before (t ++ left) 0).flatMap (Piece.replaced replacement) =
      t ++ (piecesFrom p (t.reverse ++ before) left 0).flatMap (Piece.replaced replacement) := by
  induction t generalizing before with
  | nil => rfl
  | cons c t ih =>
    have hrest : ∀ u d v, t = u ++ d :: v → matchAt p ⟨u.reverse ++ c :: before, d :: (v ++ left)⟩ = none := by
      rintro u d v rfl
      simpa using hnone (c :: u) d v rfl
    have hfirst : matchAt p ⟨before, c :: (t ++ left)⟩ = none := hnone [] c t rfl
    rw [List.cons_append, piecesFrom_of_none hfirst, List.flatMap_cons, ih hrest]
    simp [Piece.replaced]

/-- to the end of the text the pattern matches nowhere -/
theorem replaced_of_none {p : Pattern} (replacement : Hit → Text) {before t : Text}
    (hnone : ∀ u v, t = u ++ v → matchAt p ⟨u.reverse ++ before, v⟩ = none) :
    (piecesFrom p before t 0).flatMap (Piece.replaced replacement) = t := by
  have hend : matchAt p ⟨t.reverse ++ before, []⟩ = none := hnone t [] (List.append_nil t).symm
  have hbefore : ∀ u c v, t = u ++ c :: v → matchAt p ⟨u.reverse ++ before, c :: (v ++ [])⟩ = none := by
    intro u c v ht
    simpa using hnone u (c :: v) ht
  have hkept := replaced_append_of_none replacement hbefore
  rwa [List.append_nil, piecesFrom_nil_of_none hend, List.flatMap_nil, List.append_nil] at hkept

/-- a text in which the pattern matches nowhere stays as it is -/
theorem replace_eq_self {p : Pattern} {t : Text} (replacement : Hit → Text)
    (hnone : ∀ q, q.text = t → matchAt p q = none) : replace p replacement t = t :=
  replaced_of_none replacement fun u v ht => hnone _ (by simp [Place.text, ht])

/-- a text in which the pattern matches at one place only -/
theorem replace_single {p : Pattern} (replacement : Hit → Text) {x taken y : Text} {h : Hit}
    (hmatch : matchAt p ⟨x.reverse, taken ++ y⟩ = some h) (hend : h.found.place = ⟨taken.reverse ++ x.reverse, y⟩)
    (htaken : taken ≠ [])
    (honly : ∀ q g, q.text = x ++ (taken ++ y) → matchAt p q = some g → q.before = x.reverse) :
    replace p replacement (x ++ (taken ++ y)) = x ++ (replacement h ++ y) := by
  have helsewhere : ∀ b v, b.reverse ++ v = x ++ (taken ++ y) → b.length ≠ x.length → matchAt p ⟨b, v⟩ = none := by
    intro b v htext hlength
    refine Option.eq_none_iff_forall_ne_some.2 fun g hg => hlength ?_
    obtain rfl : b = x.reverse := honly ⟨b, v⟩ g htext hg
    exact List.length_reverse
  rw [replace, pieces, replaced_append_of_none, List.append_nil, piecesFrom_of_match hmatch hend htaken,
    List.flatMap_cons, replaced_of_none]
  · rfl
  · intro u v hy
    have := List.length_pos_iff.2 htaken
    refine helsewhere _ v (by simp [hy]) ?_
    simp only [List.length_append, List.length_reverse]
    omega
  · intro u c v hx
    refine helsewhere _ _ (by simp [hx]) ?_
    simp [hx]

end Linewise.Pattern
