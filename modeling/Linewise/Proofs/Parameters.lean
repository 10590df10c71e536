/-
The parameters of a definition, from how they are written to how they are listed.

`ListOf` says how a list of parameters is written: commas between the parameters, blanks around them, and each a name, or
a name with a default that may be quoted. The definition cuts the text at its commas, those inside a quoted default
included, trims the pieces, leaves empty ones out and puts `, ` between the others (`listed`). So every parameter is
listed, in its order and less a leading receiver, but each comma in its default is respaced
(`definition_lists_parameters`). A parameter is listed as it is written just if its commas are spaced that way already
(`listed_eq_self_iff`); `comma_in_default_respaced` is the smallest default that is not.
-/
import Linewise.Config.Default
import Linewise.Proofs.Definitions
import Linewise.Proofs.Pattern.Occurrences
import Linewise.Proofs.Runs
import Linewise.Proofs.Separated
import Linewise.Proofs.Trimming

namespace Linewise

open Pattern

/-! ## Reading a list -/

theorem parameters_append (x y : Text) : parameters (x ++ ',' :: y) = parameters x ++ parameters y := by
  have hsplit : Text.splitOn ',' (x ++ ',' :: y) = Text.splitOn ',' x ++ Text.splitOn ',' y := by
    simp only [Text.splitOn_eq, List.splitOn_eq_splitOnP]
    exact List.splitOnP_append_cons x y (by decide)
  rw [parameters, hsplit, List.map_append, List.filter_append]
  rfl

/-- a text without a comma is one piece -/
theorem parameters_of_notMem {t : Text} (h : ',' ∉ t) :
    parameters t = if Text.trim t = [] then [] else [Text.trim t] := by
  have hcomma : ∀ c ∈ t, (c == ',') = false := fun c hc => beq_eq_false_iff_ne.2 fun he => h (he ▸ hc)
  rw [parameters, Text.splitOn_eq, List.splitOn_eq_splitOnP, List.splitOnP_eq_singleton hcomma, List.map_singleton,
    List.filter_singleton]
  cases Text.trim t <;> rfl

theorem parameters_of_isTrimmed {t : Text} (h : ',' ∉ t) (ht : t.IsTrimmed) : parameters t = [t] := by
  rw [parameters_of_notMem h, ht.trim_eq, if_neg ht.ne_nil]

theorem notMem_comma_of_isBlank {pad : Text} (h : ∀ c ∈ pad, isBlank c = true) : ',' ∉ pad := by
  intro hmem
  cases h _ hmem

theorem parameters_append_blanks {pad : Text} (h : ∀ c ∈ pad, isBlank c = true) (t : Text) :
    parameters (t ++ pad) = parameters t := by
  induction t using Text.separated_induction ',' with
  | piece t ht =>
    have hboth : ',' ∉ t ++ pad := by
      rw [List.mem_append, not_or]
      exact ⟨ht, notMem_comma_of_isBlank h⟩
    rw [parameters_of_notMem hboth, parameters_of_notMem ht, Text.trim_append_blanks h]
  | cut x y hx ih => rw [List.append_assoc, List.cons_append, parameters_append, ih, ← parameters_append]

theorem parameters_blanks_append {pad : Text} (h : ∀ c ∈ pad, isBlank c = true) (t : Text) :
    parameters (pad ++ t) = parameters t := by
  induction t using Text.separated_induction ',' with
  | piece t ht =>
    have hboth : ',' ∉ pad ++ t := by
      rw [List.mem_append, not_or]
      exact ⟨notMem_comma_of_isBlank h, ht⟩
    rw [parameters_of_notMem hboth, parameters_of_notMem ht, Text.trim_blanks_append h]
  | cut x y hx ih =>
    have hboth : ',' ∉ pad ++ x := by
      rw [List.mem_append, not_or]
      exact ⟨notMem_comma_of_isBlank h, hx⟩
    rw [← List.append_assoc, parameters_append, parameters_append, parameters_of_notMem hboth, parameters_of_notMem hx,
      Text.trim_blanks_append h]

/-- what is read are trimmed pieces without a comma -/
theorem of_mem_parameters {t p : Text} (h : p ∈ parameters t) : p.IsTrimmed ∧ ',' ∉ p := by
  obtain ⟨hmem, hne⟩ := List.mem_filter.1 h
  obtain ⟨piece, hpiece, rfl⟩ := List.mem_map.1 hmem
  refine ⟨Text.isTrimmed_trim ?_, fun hcomma => Text.notMem_of_mem_splitOn hpiece (Text.trim_subset piece hcomma)⟩
  rintro hnil
  rw [hnil] at hne
  cases hne

/-! ## Listing a text again -/

/-- the pieces of the text between its commas, trimmed, the empty ones left out, with `, ` between the others -/
def listed (t : Text) : Text := Text.join ", " (parameters t)

/-- every comma is followed by one space, and visible characters stand around the two, not another comma -/
def SpacedCommas (t : Text) : Prop :=
  ∀ x y, t = x ++ ',' :: y →
    (∃ c ∈ x.getLast?, isBlank c = false) ∧ ∃ c rest, y = ' ' :: c :: rest ∧ isBlank c = false ∧ c ≠ ','

theorem head?_join {sep piece : Text} (h : piece ≠ []) (pieces : List Text) :
    (Text.join sep (piece :: pieces)).head? = piece.head? := by
  obtain ⟨c, rest, rfl⟩ := List.exists_cons_of_ne_nil h
  cases pieces with
  | nil => rw [Text.join_singleton]
  | cons next more =>
    rw [Text.join_cons_of_ne (List.cons_ne_nil next more), List.append_assoc]
    rfl

/-- what is listed begins with a visible character that is no comma -/
theorem head?_listed {t : Text} (h : parameters t ≠ []) :
    ∃ c rest, listed t = c :: rest ∧ isBlank c = false ∧ c ≠ ',' := by
  obtain ⟨p, ps, hcons⟩ := List.exists_cons_of_ne_nil h
  obtain ⟨htrimmed, hcomma⟩ := of_mem_parameters (t := t) (p := p) (by rw [hcons]; exact List.mem_cons_self)
  obtain ⟨c, hc, hblank⟩ := htrimmed.head
  obtain ⟨q, rfl⟩ := List.head?_eq_some_iff.1 (Option.mem_def.1 hc)
  have hhead : (listed t).head? = some c := by
    rw [listed, hcons, head?_join (List.cons_ne_nil c q)]
    rfl
  obtain ⟨rest, hrest⟩ := List.head?_eq_some_iff.1 hhead
  refine ⟨c, rest, hrest, hblank, ?_⟩
  rintro rfl
  exact hcomma List.mem_cons_self

theorem listed_of_notMem {t : Text} (h : ',' ∉ t) (ht : t.IsTrimmed) : listed t = t := by
  rw [listed, parameters_of_isTrimmed h ht, Text.join_singleton]

/-- a text is cut at its first comma in one way -/
theorem eq_of_first_comma {x x' y y' : Text} (h : x ++ ',' :: y = x' ++ ',' :: y') (hx : ',' ∉ x) (hx' : ',' ∉ x') :
    x = x' ∧ y = y' := by
  have hnone {s : Text} (hs : ',' ∉ s) : ∀ c ∈ s, (c != ',') = true := fun c hc => bne_iff_ne.2 fun he => hs (he ▸ hc)
  obtain ⟨rfl, hrest⟩ := eq_of_longest_run h (hnone hx) (by rintro _ ⟨⟩; rfl) (hnone hx') (by rintro _ ⟨⟩; rfl)
  exact ⟨rfl, (List.cons.inj hrest).2⟩

theorem listed_cut {x y : Text} (hx : ',' ∉ x) (htrimmed : x.IsTrimmed) (hy : parameters y ≠ []) :
    listed (x ++ ',' :: y) = x ++ ',' :: ' ' :: listed y := by
  rw [listed, parameters_append, parameters_of_isTrimmed hx htrimmed,
    Text.join_append (List.cons_ne_nil x []) hy, Text.join_singleton, List.append_assoc]
  rfl

/-- a text with a comma is listed as it is just if the piece before the first one is trimmed, and one space and a text
that is listed as it is come after it -/
theorem listed_cut_eq_self_iff {x y : Text} (hx : ',' ∉ x) (hhead : ∃ c ∈ (x ++ ',' :: y).head?, isBlank c = false) :
    listed (x ++ ',' :: y) = x ++ ',' :: y ↔
      x.IsTrimmed ∧ ∃ rest, y = ' ' :: rest ∧ parameters rest ≠ [] ∧ listed rest = rest := by
  have hblank : ∀ c ∈ [' '], isBlank c = true := List.all_eq_true.1 rfl
  constructor
  · intro h
    -- what is listed begins with no comma, so something stands before the first one
    have hparams : parameters (x ++ ',' :: y) ≠ [] := by
      intro hnil
      rw [listed, hnil] at h
      exact List.append_ne_nil_of_right_ne_nil x (List.cons_ne_nil ',' y) h.symm
    have hsome : x ≠ [] := by
      rintro rfl
      obtain ⟨c, rest, hcons, -, hcomma⟩ := head?_listed hparams
      exact hcomma (List.cons.inj (hcons.symm.trans h)).1
    have hvisible : ∃ c ∈ x, isBlank c = false := by
      obtain ⟨c, hc, hvisible⟩ := hhead
      obtain ⟨d, rest, rfl⟩ := List.exists_cons_of_ne_nil hsome
      obtain rfl : d = c := Option.some.inj (Option.mem_def.1 hc)
      exact ⟨d, List.mem_cons_self, hvisible⟩
    obtain ⟨c, hmem, hvisible⟩ := hvisible
    have htrim : Text.trim x ≠ [] := List.ne_nil_of_mem (Text.mem_trim hmem hvisible)
    have hcomma : ',' ∉ Text.trim x := fun hmem => hx (Text.trim_subset x hmem)
    have hy : parameters y ≠ [] := by
      intro hnil
      rw [listed, parameters_append, hnil, parameters_of_notMem hx, if_neg htrim, List.append_nil,
        Text.join_singleton] at h
      exact hcomma (by rw [h]; simp)
    rw [listed, parameters_append, parameters_of_notMem hx, if_neg htrim,
      Text.join_append (List.cons_ne_nil _ []) hy, Text.join_singleton, List.append_assoc] at h
    obtain ⟨hsame, hrest⟩ := eq_of_first_comma (y := ' ' :: listed y) h hcomma hx
    have hspace : parameters (listed y) = parameters y := by
      have hparts := parameters_blanks_append hblank (listed y)
      rw [List.singleton_append, hrest] at hparts
      exact hparts.symm
    refine ⟨hsame ▸ Text.isTrimmed_trim htrim, listed y, hrest.symm, ?_, ?_⟩
    · rwa [hspace]
    · rw [listed, hspace, ← listed]
  · rintro ⟨htrimmed, rest, rfl, hrest, hsame⟩
    have hparams : parameters (' ' :: rest) = parameters rest := parameters_blanks_append hblank rest
    have hlisted : listed (' ' :: rest) = rest := by rw [listed, hparams, ← listed, hsame]
    rw [listed_cut hx htrimmed (by rwa [hparams]), hlisted]

theorem spacedCommas_cut_iff {x y : Text} (hx : ',' ∉ x) :
    SpacedCommas (x ++ ',' :: y) ↔
      (∃ c ∈ x.getLast?, isBlank c = false) ∧
        ∃ c rest, y = ' ' :: c :: rest ∧ isBlank c = false ∧ c ≠ ',' ∧ SpacedCommas (c :: rest) := by
  constructor
  · intro h
    obtain ⟨hlast, c, rest, rfl, hblank, hcomma⟩ := h x y rfl
    refine ⟨hlast, c, rest, rfl, hblank, hcomma, ?_⟩
    intro u v huv
    obtain ⟨hlast, hafter⟩ := h (x ++ ',' :: ' ' :: u) v (by rw [huv]; simp)
    refine ⟨?_, hafter⟩
    -- the text begins with no comma, so what stands before this one is not empty
    obtain ⟨d, u, rfl⟩ : ∃ d u', u = d :: u' := by
      cases u with
      | nil => exact absurd (List.cons.inj huv).1 hcomma
      | cons d u => exact ⟨d, u, rfl⟩
    rwa [List.getLast?_append_of_ne_nil _ (List.cons_ne_nil _ _), List.getLast?_cons_cons, List.getLast?_cons_cons] at hlast
  · rintro ⟨hlast, c, rest, rfl, hblank, hcomma, hrest⟩ u v huv
    by_cases hu : ',' ∈ u
    · obtain ⟨s, u, rfl, hs⟩ := List.eq_append_cons_of_mem hu
      rw [List.append_assoc, List.cons_append] at huv
      obtain ⟨rfl, hlater⟩ := eq_of_first_comma huv hx hs
      cases u with
      | nil => cases (List.cons.inj hlater).1
      | cons d u =>
        obtain ⟨rfl, hinner⟩ := List.cons.inj hlater
        obtain ⟨hlast, hafter⟩ := hrest u v hinner
        refine ⟨?_, hafter⟩
        obtain ⟨e, he, hvisible⟩ := hlast
        refine ⟨e, ?_, hvisible⟩
        have hne : u ≠ [] := by
          rintro rfl
          cases he
        rw [List.getLast?_append_of_ne_nil _ (List.cons_ne_nil _ _), List.getLast?_cons_of_ne_nil (List.cons_ne_nil _ _),
          List.getLast?_cons_of_ne_nil hne]
        exact he
    · obtain ⟨rfl, rfl⟩ := eq_of_first_comma huv hx hu
      exact ⟨hlast, c, rest, rfl, hblank, hcomma⟩

/-- **What is listed as it is written.** A trimmed text is, just if its commas are spaced. -/
theorem listed_eq_self_iff {t : Text} (ht : t.IsTrimmed) : listed t = t ↔ SpacedCommas t := by
  induction hn : t.length using Nat.strongRecOn generalizing t with
  | ind n ih =>
    subst hn
    by_cases hcomma : ',' ∈ t
    · obtain ⟨x, y, rfl, hx⟩ := List.eq_append_cons_of_mem hcomma
      have hlater {c : Char} {rest : Text} (hy : y = ' ' :: c :: rest) (hblank : isBlank c = false) :
          listed (c :: rest) = c :: rest ↔ SpacedCommas (c :: rest) := by
        subst hy
        refine ih _ ?_ ⟨⟨c, rfl, hblank⟩, ?_⟩ rfl
        · simp only [List.length_append, List.length_cons]
          omega
        · have hlast := ht.last
          rwa [List.getLast?_append_of_ne_nil _ (List.cons_ne_nil _ _), List.getLast?_cons_cons,
            List.getLast?_cons_cons] at hlast
      rw [listed_cut_eq_self_iff hx ht.head, spacedCommas_cut_iff hx]
      constructor
      · rintro ⟨htrimmed, rest, hy, hrest, hsame⟩
        obtain ⟨c, rest', hcons, hblank, hnot⟩ := head?_listed hrest
        rw [hsame] at hcons
        subst hcons
        exact ⟨htrimmed.last, c, rest', hy, hblank, hnot, (hlater hy hblank).1 hsame⟩
      · rintro ⟨hlast, c, rest, hy, hblank, -, hspaced⟩
        have hsame := (hlater hy hblank).2 hspaced
        refine ⟨⟨?_, hlast⟩, c :: rest, hy, ?_, hsame⟩
        · obtain ⟨d, hd, -⟩ := hlast
          have hhead := ht.head
          cases x with
          | nil => cases hd
          | cons e x => exact hhead
        · intro hnil
          rw [listed, hnil] at hsame
          cases hsame
    · refine iff_of_true (listed_of_notMem hcomma ht) ?_
      rintro x y rfl
      exact absurd (by simp) hcomma

/-! ## How lists of parameters are written -/

/-- blanks within a line -/
def IsGap (gap : Text) : Prop := ∀ c ∈ gap, isBlank c = true ∧ c ≠ '\n'

instance : DecidablePred IsGap := fun gap =>
  decidable_of_iff (gap.all (fun c => isBlank c && c != '\n') = true) (by simp [IsGap])

/-- visible characters and no comma, as in an identifier or a number -/
structure IsToken (t : Text) : Prop where
  ne_nil : t ≠ []
  isVisible : ∀ c ∈ t, isBlank c = false ∧ c ≠ ','

instance : DecidablePred IsToken := fun t =>
  decidable_of_iff (t ≠ [] ∧ t.all (fun c => !isBlank c && c != ',') = true)
    ⟨fun h => ⟨h.1, by simpa using h.2⟩, fun h => ⟨h.ne_nil, by simpa using h.isVisible⟩⟩

/-- the default of a parameter: an identifier, a number, or anything between two quotes that stays within the line -/
inductive IsDefault : Text → Prop where
  | token {t : Text} (h : IsToken t) : IsDefault t
  | quoted {quote : Char} {content : Text} (hquote : quote = '\'' ∨ quote = '"') (hend : quote ∉ content)
      (hline : '\n' ∉ content) : IsDefault (quote :: (content ++ [quote]))

/-- a parameter as it is written -/
inductive IsParameter : Text → Prop where
  | required {name : Text} (hname : IsToken name) : IsParameter name
  | optional {name left right value : Text} (hname : IsToken name) (hleft : IsGap left) (hright : IsGap right)
      (hvalue : IsDefault value) : IsParameter (name ++ left ++ '=' :: (right ++ value))

/-- the text is a list of these parameters; a comma may follow the last one -/
inductive ListOf : List Text → Text → Prop where
  | nil {gap : Text} (hgap : IsGap gap) : ListOf [] gap
  | last {p before after : Text} (hp : IsParameter p) (hbefore : IsGap before) (hafter : IsGap after) :
    ListOf [p] (before ++ p ++ after)
  | cons {p before after t : Text} {ps : List Text} (hp : IsParameter p) (hbefore : IsGap before)
      (hafter : IsGap after) (hrest : ListOf ps t) : ListOf (p :: ps) (before ++ p ++ after ++ ',' :: t)

theorem IsGap.isBlank {gap : Text} (h : IsGap gap) : ∀ c ∈ gap, isBlank c = true := fun c hc => (h c hc).1

theorem IsGap.notMem_newline {gap : Text} (h : IsGap gap) : '\n' ∉ gap := fun hmem => (h _ hmem).2 rfl

theorem IsToken.isTrimmed {t : Text} (h : IsToken t) : t.IsTrimmed where
  head := by
    obtain ⟨c, rest, rfl⟩ := List.exists_cons_of_ne_nil h.ne_nil
    exact ⟨c, rfl, (h.isVisible c List.mem_cons_self).1⟩
  last := ⟨_, List.getLast?_eq_some_getLast h.ne_nil, (h.isVisible _ (List.getLast_mem h.ne_nil)).1⟩

theorem IsToken.notMem_newline {t : Text} (h : IsToken t) : '\n' ∉ t := fun hmem =>
  absurd (h.isVisible _ hmem).1 (by decide)

theorem IsToken.notMem_comma {t : Text} (h : IsToken t) : ',' ∉ t := fun hmem => (h.isVisible _ hmem).2 rfl

theorem IsWord.isBlank_eq_false {w : Text} (hw : IsWord w) : ∀ c ∈ w, isBlank c = false := by
  intro c hc
  refine Bool.eq_false_iff.2 fun hblank => ?_
  have hword := hw.all_word c hc
  rw [isWordChar_of_isBlank hblank] at hword
  cases hword

theorem IsWord.isBlank_head {w : Text} (hw : IsWord w) (t : Text) : ∀ c ∈ (w ++ t).head?, isBlank c = false := by
  obtain ⟨d, rest, rfl⟩ := List.exists_cons_of_ne_nil hw.ne_nil
  rintro _ ⟨⟩
  exact hw.isBlank_eq_false d List.mem_cons_self

theorem BeginsApart.of_blanks {space : Text} (h : ∀ c ∈ space, isBlank c = true) {t : Text} (ht : BeginsApart t) :
    BeginsApart (space ++ t) := by
  cases space with
  | nil => exact ht
  | cons c rest => exact isWordChar_of_isBlank (h c List.mem_cons_self)

theorem IsWord.isToken {w : Text} (hw : IsWord w) : IsToken w :=
  ⟨hw.ne_nil, fun c hc => ⟨hw.isBlank_eq_false c hc, fun he => hw.notMem (by decide) (he ▸ hc)⟩⟩

theorem IsDefault.ne_nil {t : Text} (h : IsDefault t) : t ≠ [] := by
  cases h with
  | token h => exact h.ne_nil
  | quoted => exact List.cons_ne_nil _ _

theorem IsDefault.last {t : Text} (h : IsDefault t) : ∃ c ∈ t.getLast?, isBlank c = false := by
  cases h with
  | token h => exact h.isTrimmed.last
  | @quoted quote content hquote hend hline =>
    refine ⟨quote, ?_, by rcases hquote with rfl | rfl <;> decide⟩
    rw [← List.cons_append, List.getLast?_concat]
    rfl

theorem IsDefault.notMem_newline {t : Text} (h : IsDefault t) : '\n' ∉ t := by
  cases h with
  | token h => exact h.notMem_newline
  | @quoted quote content hquote hend hline =>
    have hne : '\n' ≠ quote := by rcases hquote with rfl | rfl <;> decide
    simp only [List.mem_cons, List.mem_append, List.not_mem_nil, or_false, not_or]
    exact ⟨hne, hline, hne⟩

theorem IsParameter.isTrimmed {p : Text} (h : IsParameter p) : p.IsTrimmed := by
  cases h with
  | required hname => exact hname.isTrimmed
  | @optional name left right value hname hleft hright hvalue =>
    constructor
    · obtain ⟨c, hc, hblank⟩ := hname.isTrimmed.head
      obtain ⟨rest, rfl⟩ := List.head?_eq_some_iff.1 (Option.mem_def.1 hc)
      exact ⟨c, rfl, hblank⟩
    · obtain ⟨c, hc, hblank⟩ := hvalue.last
      refine ⟨c, ?_, hblank⟩
      have hne : right ++ value ≠ [] := List.append_ne_nil_of_right_ne_nil right hvalue.ne_nil
      rw [List.getLast?_append_of_ne_nil _ (List.cons_ne_nil _ _), List.getLast?_cons_of_ne_nil hne,
        List.getLast?_append_of_ne_nil _ hvalue.ne_nil]
      exact hc

theorem IsParameter.notMem_newline {p : Text} (h : IsParameter p) : '\n' ∉ p := by
  cases h with
  | required hname => exact hname.notMem_newline
  | optional hname hleft hright hvalue =>
    simp only [List.mem_append, List.mem_cons, not_or]
    exact ⟨⟨hname.notMem_newline, hleft.notMem_newline⟩, by decide, hright.notMem_newline, hvalue.notMem_newline⟩

theorem ListOf.notMem_newline {params : List Text} {t : Text} (h : ListOf params t) : '\n' ∉ t := by
  induction h with
  | nil hgap => exact hgap.notMem_newline
  | last hp hbefore hafter =>
    simp only [List.mem_append, not_or]
    exact ⟨⟨hbefore.notMem_newline, hp.notMem_newline⟩, hafter.notMem_newline⟩
  | cons hp hbefore hafter hrest ih =>
    simp only [List.mem_append, List.mem_cons, not_or]
    exact ⟨⟨⟨hbefore.notMem_newline, hp.notMem_newline⟩, hafter.notMem_newline⟩, by decide, ih⟩

theorem ListOf.isParameter {params : List Text} {t : Text} (h : ListOf params t) : ∀ p ∈ params, IsParameter p := by
  induction h with
  | nil hgap => exact fun p hp => absurd hp List.not_mem_nil
  | last hp hbefore hafter => simpa using hp
  | cons hp hbefore hafter hrest ih => exact List.forall_mem_cons.2 ⟨hp, ih⟩

/-- the list is cut at its own commas and at those inside of the parameters -/
theorem parameters_of_listOf {params : List Text} {t : Text} (h : ListOf params t) :
    parameters t = params.flatMap parameters := by
  induction h with
  | @nil gap hgap =>
    have hnone := parameters_blanks_append hgap.isBlank []
    rw [List.append_nil] at hnone
    rw [hnone]
    rfl
  | last hp hbefore hafter =>
    rw [parameters_append_blanks hafter.isBlank, parameters_blanks_append hbefore.isBlank, List.flatMap_singleton]
  | cons hp hbefore hafter hrest ih =>
    rw [parameters_append, parameters_append_blanks hafter.isBlank, parameters_blanks_append hbefore.isBlank, ih,
      List.flatMap_cons]

/-- a comma inside of a parameter stands in its default, after the sign -/
theorem IsParameter.mem_of_cut {x y : Text} (h : IsParameter (x ++ ',' :: y)) : '=' ∈ x := by
  generalize ht : x ++ ',' :: y = t at h
  cases h with
  | required hname =>
    subst ht
    exact absurd (by simp) hname.notMem_comma
  | @optional name left right value hname hleft hright hvalue =>
    have hbefore : ',' ∉ name ++ left := by
      rw [List.mem_append, not_or]
      exact ⟨hname.notMem_comma, notMem_comma_of_isBlank hleft.isBlank⟩
    rcases List.append_eq_append_iff.1 ht with ⟨more, hmore, hcut⟩ | ⟨more, rfl, hcut⟩
    · -- the comma would stand before the sign
      cases more with
      | nil => cases (List.cons.inj hcut).1
      | cons c more =>
        obtain ⟨rfl, -⟩ := List.cons.inj hcut
        exact absurd (by rw [hmore]; simp) hbefore
    · cases more with
      | nil => cases (List.cons.inj hcut).1
      | cons c more =>
        obtain ⟨rfl, -⟩ := List.cons.inj hcut
        simp

/-- a parameter is one piece, or the sign of its default stands in the first of several -/
theorem IsParameter.pieces {p : Text} (h : IsParameter p) :
    (',' ∉ p ∧ parameters p = [p]) ∨ (',' ∈ p ∧ ∃ first rest, parameters p = first :: rest ∧ '=' ∈ first) := by
  by_cases hcomma : ',' ∈ p
  · obtain ⟨x, y, rfl, hx⟩ := List.eq_append_cons_of_mem hcomma
    have hsign : '=' ∈ Text.trim x := Text.mem_trim h.mem_of_cut (by decide)
    refine .inr ⟨hcomma, Text.trim x, parameters y, ?_, hsign⟩
    rw [parameters_append, parameters_of_notMem hx, if_neg (List.ne_nil_of_mem hsign)]
    rfl
  · exact .inl ⟨hcomma, parameters_of_isTrimmed hcomma h.isTrimmed⟩

theorem IsParameter.parameters_ne_nil {p : Text} (h : IsParameter p) : parameters p ≠ [] := by
  rcases h.pieces with ⟨-, hpieces⟩ | ⟨-, first, rest, hpieces, -⟩
  · rw [hpieces]
    exact List.cons_ne_nil p []
  · rw [hpieces]
    exact List.cons_ne_nil first rest

/-- a receiver is dropped from the pieces just if it is the first parameter -/
theorem dropReceiver_flatMap_parameters {receivers params : List Text}
    (hreceivers : ∀ r ∈ receivers, ',' ∉ r ∧ '=' ∉ r) (hparams : ∀ p ∈ params, IsParameter p) :
    dropReceiver receivers (params.flatMap parameters) = (dropReceiver receivers params).flatMap parameters := by
  cases params with
  | nil => rfl
  | cons p rest =>
    rw [List.flatMap_cons, dropReceiver]
    rcases (hparams p List.mem_cons_self).pieces with ⟨-, hpieces⟩ | ⟨hcomma, first, more, hpieces, hsign⟩
    · rw [hpieces, List.singleton_append, dropReceiver]
      split_ifs
      · rfl
      · rw [List.flatMap_cons, hpieces, List.singleton_append]
    · have hfirst : receivers.contains first = false := by
        simpa using fun hmem => (hreceivers first hmem).2 hsign
      have hp : receivers.contains p = false := by
        simpa using fun hmem => (hreceivers p hmem).1 hcomma
      rw [hp, hpieces, List.cons_append, dropReceiver, hfirst, if_neg Bool.false_ne_true, if_neg Bool.false_ne_true,
        List.flatMap_cons, hpieces, List.cons_append]

/-! ## What a definition is rendered as -/

/-- the special name of a method, or its own -/
def specialName (tables : Tables) (name : Text) : Text :=
  match tables.lookup .specialMethods name with
  | some special => if special.isEmpty then name else special
  | none => name

/-- the name in a header: that of a static method stands behind its class -/
def Scope.headerName (tables : Tables) (s : Scope) (name : Text) : Text :=
  if s.nextIsStatic then s.className ++ ['.'] ++ specialName tables name else specialName tables name

/-- what the first parameter may not be called, if it is to be listed -/
def Scope.receivers (s : Scope) : List Text := if s.nextIsStatic then ["self", "cls"] else ["self"]

/-- the scope in which no decorator awaits its definition -/
def Scope.undecorated (s : Scope) : Scope := ⟨s.className, false, false⟩

theorem renderDefinition_eq (tables : Tables) (scope : Scope) (name list : Text) :
    renderDefinition tables scope name list =
      definitionHeader (scope.headerName tables name) (dropReceiver scope.receivers (parameters list)) := by
  rw [renderDefinition, Scope.headerName, Scope.receivers]
  cases scope.nextIsStatic <;> rfl

theorem Scope.notMem_receivers (s : Scope) : ∀ r ∈ s.receivers, ',' ∉ r ∧ '=' ∉ r := by
  rw [receivers]
  cases s.nextIsStatic <;> decide

/-- the last parenthesis of the text, or of its only line, closes the list of parameters -/
theorem matchStart_definition {gap name space inner tail : Text} (hgap : gap ≠ []) (hname : IsWord name)
    (hblank : ∀ c ∈ gap, isBlank c = true) (hspace : ∀ c ∈ space, isBlank c = true) (hinner : '\n' ∉ inner)
    (htail : tail = [] ∨ tail = ['\n']) :
    Shape.definition.pattern.matchStart ("def" ++ (gap ++ (name ++ (space ++ '(' :: (inner ++ ')' :: tail))))) =
      some ⟨⟨("def" ++ (gap ++ (name ++ (space ++ '(' :: (inner ++ [')']))))).reverse, tail⟩,
        [(2, inner), (1, name)]⟩ := by
  have hword : ∀ c ∈ name, CharSet.word.contains .exact c = true := by simpa using hname.all_word
  have hline : ∀ c ∈ inner, CharSet.notNewline.contains .exact c = true := by
    intro c hc
    rw [CharSet.contains_notNewline, bne_iff_ne]
    exact fun he => hinner (he ▸ hc)
  have hvisible : ∀ c ∈ (name ++ (space ++ '(' :: (inner ++ ')' :: tail))).head?,
      CharSet.blank.contains .exact c = false := by
    simpa using hname.isBlank_head (space ++ '(' :: (inner ++ ')' :: tail))
  have hparen : BeginsApart ('(' :: (inner ++ ')' :: tail)) := rfl
  have hapart : ∀ c ∈ (space ++ '(' :: (inner ++ ')' :: tail)).head?, CharSet.word.contains .exact c = false := by
    simpa using (hparen.of_blanks hspace).of_mem
  rw [matchStart, Pattern.Place.start, Shape.pattern, run_chars_append, run_ofList_cons]
  refine run_plus_eq_some hgap (by simpa using hblank) hvisible ?_
  rw [run_ofList_cons, Shape.word, run_group]
  refine run_plus_eq_some hname.ne_nil hword hapart ?_
  rw [run_ofList_cons]
  refine run_star_eq_some (by simpa using hspace) (by rintro _ ⟨⟩; decide) ?_
  rw [run_ofList_cons, run_char_cons, run_ofList_cons, run_group, any, run_star_one]
  refine longestFirst_eq_some hline ?_ ?_
  · rw [run_ofList_cons, run_char_cons]
    show Pattern.run lastLineEnd some _ = _
    rw [lastLineEnd, run_anchor, if_pos (holds_lastLineEnd_iff.2 htail)]
    simp
  · intro more rest hleft hne hmore
    -- after the parenthesis the text ends, or a line feed comes that no longer run can take
    obtain ⟨c, more, rfl⟩ := List.exists_cons_of_ne_nil hne
    obtain ⟨rfl, hrest⟩ := List.cons.inj hleft
    have hnone : more = [] := by
      cases more with
      | nil => rfl
      | cons d more =>
        rcases htail with rfl | rfl
        · cases hrest
        · obtain ⟨rfl, -⟩ := List.cons.inj hrest
          have hnewline := hmore '\n' (by simp)
          rw [CharSet.contains_notNewline] at hnewline
          cases hnewline
    subst hnone
    obtain rfl : tail = rest := hrest
    rw [run_ofList_cons]
    rcases htail with rfl | rfl
    · rw [char, run_one_nil]
    · rw [char, run_one_cons, CharSet.contains_single, if_neg (by decide)]

/-- what becomes of a closed header -/
theorem dispatch_definition (tables : Tables) (scope : Scope) {gap name space inner tail : Text} (hgap : gap ≠ [])
    (hname : IsWord name) (hblank : ∀ c ∈ gap, isBlank c = true) (hspace : ∀ c ∈ space, isBlank c = true)
    (hinner : '\n' ∉ inner) (htail : tail = [] ∨ tail = ['\n']) :
    dispatch tables scope ("def" ++ (gap ++ (name ++ (space ++ '(' :: (inner ++ ')' :: tail))))) =
      ⟨some (definitionHeader (scope.headerName tables name) (dropReceiver scope.receivers (parameters inner))),
        some .definition, scope.undecorated⟩ := by
  have hfound := matchStart_definition hgap hname hblank hspace hinner htail
  obtain ⟨rest, hheader, -⟩ := isSome_matchStart_definition_iff.1 (by rw [hfound]; rfl)
  rw [dispatch, Shape.ofStatement?_of_isHeader hheader, hfound, ← renderDefinition_eq]
  rfl

/-- pieces that belong together are listed together -/
theorem definitionHeader_flatMap (name : Text) {params : List Text} (h : ∀ p ∈ params, parameters p ≠ []) :
    definitionHeader name (params.flatMap parameters) = definitionHeader name (params.map listed) := by
  have hempty : (params.flatMap parameters).isEmpty = (params.map listed).isEmpty := by
    cases params with
    | nil => rfl
    | cons p rest => simpa using fun hnil => absurd hnil (h p List.mem_cons_self)
  rw [definitionHeader, definitionHeader, hempty, Text.join_flatMap h]
  rfl

theorem dropReceiver_subset (receivers params : List Text) : dropReceiver receivers params ⊆ params := by
  cases params with
  | nil => exact List.Subset.refl []
  | cons p rest =>
    rw [dropReceiver]
    split_ifs
    · exact List.subset_cons_self p rest
    · exact List.Subset.refl _

/-- **The parameters of a definition.** A header with a list of parameters is emitted with these parameters in their
order, less a leading `self`, or `cls` in a static method, each with its commas respaced; no decorator is pending after
it. A parameter comes out as it is written just if its commas are spaced already. -/
theorem definition_lists_parameters (tables : Tables) (scope : Scope) {gap name space list : Text} {params : List Text}
    (hgap : gap ≠ []) (hblank : ∀ c ∈ gap, isBlank c = true) (hname : IsWord name)
    (hspace : ∀ c ∈ space, isBlank c = true) (hlist : ListOf params list) :
    dispatch tables scope ("def" ++ (gap ++ (name ++ (space ++ '(' :: (list ++ [')']))))) =
        ⟨some (definitionHeader (scope.headerName tables name) ((dropReceiver scope.receivers params).map listed)),
          some .definition, scope.undecorated⟩ ∧
      ∀ p ∈ params, listed p = p ↔ SpacedCommas p := by
  have hparams := hlist.isParameter
  refine ⟨?_, fun p hp => listed_eq_self_iff (hparams p hp).isTrimmed⟩
  rw [dispatch_definition tables scope hgap hname hblank hspace hlist.notMem_newline (.inl rfl),
    parameters_of_listOf hlist, dropReceiver_flatMap_parameters scope.notMem_receivers hparams,
    definitionHeader_flatMap _ fun p hp => (hparams p (dropReceiver_subset _ _ hp)).parameters_ne_nil]

/-- a static method with two defaults that hold commas: one keeps its text, one does not -/
theorem static_definition_with_commas :
    let scope : Scope := { className := "Row", nextIsStatic := true }
    let kept : Text := "sep=', '"
    let changed : Text := "last = \"a,b\""
    let list : Text := "cls, sep=', ' ,last = \"a,b\""
    ListOf ["cls", kept, changed] list ∧ SpacedCommas kept ∧ ¬ SpacedCommas changed ∧
      dispatch .standard scope "def __str__(cls, sep=', ' ,last = \"a,b\")" =
        ⟨some "def Row.to_s (sep=', ', last = \"a, b\")", some .definition, { className := "Row" }⟩ := by
  intro scope kept changed list
  have hnone : IsGap [] := by decide
  have hspace : IsGap " " := by decide
  have hcls : IsToken "cls" := by decide
  have hsep : IsToken "sep" := by decide
  have hlast : IsToken "last" := by decide
  have hkept : IsParameter kept :=
    .optional hsep hnone hnone (.quoted (.inl rfl) (by decide : '\'' ∉ ", ".toList) (by decide))
  have hchanged : IsParameter changed :=
    .optional hlast hspace hspace (.quoted (.inr rfl) (by decide : '"' ∉ "a,b".toList) (by decide))
  have hlist : ListOf ["cls", kept, changed] list :=
    .cons (.required hcls) hnone hnone (.cons hkept hspace hspace (.last hchanged hnone hnone))
  obtain ⟨hdispatch, hspaced⟩ := @definition_lists_parameters .standard scope " " "__str__" [] list _
    (by decide) (List.forall_mem_singleton.2 rfl) (by decide) (List.forall_mem_nil _) hlist
  have htext : "def".toList ++ (" ".toList ++ ("__str__".toList ++ ([] ++ '(' :: (list ++ [')'])))) =
      "def __str__(cls, sep=', ' ,last = \"a,b\")".toList := by decide
  rw [htext] at hdispatch
  refine ⟨hlist, (hspaced kept (by simp)).1 (by decide +kernel), ?_, hdispatch.trans (by decide +kernel)⟩
  exact fun h => absurd ((hspaced changed (by simp)).2 h) (by decide +kernel)

/-- a comma in quotes without a space after it is given one -/
theorem comma_in_default_respaced :
    let param : Text := "a=\",\""
    ListOf [param] param ∧ definitionHeader "f" [param] = "def f (a=\",\")".toList ∧
      (dispatch {} {} "def f(a=\",\")").text = some "def f (a=\", \")".toList := by
  intro param
  have hnone : IsGap [] := by decide
  have hname : IsToken "a" := by decide
  have hparam : IsParameter param :=
    .optional hname hnone hnone (.quoted (.inr rfl) (by decide : '"' ∉ ",".toList) (by decide))
  exact ⟨.last hparam hnone hnone, by decide +kernel, by decide +kernel⟩

end Linewise
