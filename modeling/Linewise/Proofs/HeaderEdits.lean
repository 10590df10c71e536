/-
The header of a definition through the edits.

The edits know nothing of definitions. To them `def f(x)` is the call `f(x)` after a word: a capitalized name becomes a
constructor, and a name from the call tables is renamed if there are parameters. `guise` says what a header is taken for
and `Guise.header` what is then left of it; `edits_of_header` says that this is what the edits make of every header of
words that are not reserved.
-/
import Linewise.Proofs.Edits
import Linewise.Proofs.Separated

namespace Linewise

/-! ## Headers and what they are taken for -/

/-- a list of parameters between parentheses -/
def parenthesized (params : List Text) : Text := '(' :: (Text.join ", " params ++ [')'])

/-- the header of a definition, as it is written -/
def plainHeader (name : Text) (params : List Text) : Text := "def " ++ (name ++ parenthesized params)

/-- what a header can be taken for -/
inductive Guise where
  | definition
  | construction
  /-- a call, to be written as this method of its arguments -/
  | methodCall (method : Text)
  /-- a call, to be written as one of this function -/
  | functionCall (function : Text)
deriving DecidableEq, Repr

/-- what the edits take a header for -/
def guise (name : Text) (params : List Text) : Guise :=
  if name.head?.any Char.isUpper then .construction
  else if params = [] then .definition
  else
    match Tables.standard.functionsToMethods.get? name, Tables.standard.functionsToFunctions.get? name with
    | some method, _ => .methodCall method
    | none, some function => .functionCall function
    | none, none => .definition

namespace Guise

/-- the parameters as a receiver: more than one of them need the parentheses -/
def receiver (params : List Text) : Text :=
  if params.length = 1 then Text.join ", " params else parenthesized params

/-- the header as the edits leave it -/
def header (name : Text) (params : List Text) : Guise → Text
  | .definition => plainHeader name params
  | .construction => plainHeader (name ++ ".new") params
  | .methodCall method =>
    if params = ["self".toList] then "def @" ++ method else "def " ++ receiver params ++ '.' :: method
  | .functionCall function => plainHeader function params

theorem head?_header (name : Text) (params : List Text) (g : Guise) : (g.header name params).head? = some 'd' := by
  cases g with
  | methodCall method =>
    rw [header]
    split <;> rfl
  | _ => rfl

end Guise

/-- why a header is taken for what it is taken for -/
inductive TakenFor (name : Text) (params : List Text) : Guise → Prop
  | bare (hlower : name.head?.any Char.isUpper = false) (hparams : params = []) : TakenFor name params .definition
  | unmapped (hlower : name.head?.any Char.isUpper = false) (hparams : params ≠ [])
    (hmethod : Tables.standard.functionsToMethods.get? name = none)
    (hfunction : Tables.standard.functionsToFunctions.get? name = none) : TakenFor name params .definition
  | capital (hcapital : name.head?.any Char.isUpper = true) : TakenFor name params .construction
  | method {method : Text} (hparams : params ≠ [])
    (hmethod : Tables.standard.functionsToMethods.get? name = some method) : TakenFor name params (.methodCall method)
  | function {function : Text} (hparams : params ≠ [])
    (hmethod : Tables.standard.functionsToMethods.get? name = none)
    (hfunction : Tables.standard.functionsToFunctions.get? name = some function) :
    TakenFor name params (.functionCall function)

theorem takenFor_guise (name : Text) (params : List Text) : TakenFor name params (guise name params) := by
  rw [guise]
  split_ifs with hcapital hparams
  · exact .capital hcapital
  · exact .bare (Bool.not_eq_true _ ▸ hcapital) hparams
  · cases hmethod : Tables.standard.functionsToMethods.get? name with
    | some method => exact .method hparams hmethod
    | none =>
      cases hfunction : Tables.standard.functionsToFunctions.get? name with
      | some function => exact .function hparams hmethod hfunction
      | none => exact .unmapped (Bool.not_eq_true _ ▸ hcapital) hparams hmethod hfunction

/-! ### The standard call tables -/

theorem standardMethods_word {name method : Text} (h : Tables.standard.functionsToMethods.get? name = some method) :
    name.head?.any Char.isUpper = false ∧ IsWord method ∧ method ∉ Edit.standardWords := by
  have hall : ∀ e ∈ Tables.standard.functionsToMethods.entries,
      e.1.head?.any Char.isUpper = false ∧ IsWord e.2 ∧ e.2 ∉ Edit.standardWords := by decide +kernel
  exact hall (name, method) (Table.mem_of_get? h)

theorem standardFunctions_open {name function : Text}
    (h : Tables.standard.functionsToFunctions.get? name = some function) :
    name.head?.any Char.isUpper = false ∧ function = "File.open".toList := by
  have hall : ∀ e ∈ Tables.standard.functionsToFunctions.entries,
      e.1.head?.any Char.isUpper = false ∧ e.2 = "File.open".toList := by decide +kernel
  exact hall (name, function) (Table.mem_of_get? h)

/-! ## The texts of headers -/

section

variable {params : List Text} (hparams : ∀ p ∈ params, IsWord p)
include hparams

theorem join_params_ne (hne : params ≠ []) : Text.join ", " params ≠ [] := by
  obtain ⟨p, ps, rfl⟩ := List.exists_cons_of_ne_nil hne
  have hp := (hparams p List.mem_cons_self).ne_nil
  by_cases hnil : ps = []
  · subst hnil
    rwa [Text.join_singleton]
  · rw [Text.join_cons_of_ne hnil, List.append_assoc]
    exact List.append_ne_nil_of_left_ne_nil hp _

/-- a list of parameters is made of words, commas and spaces -/
theorem notMem_join_params {c : Char} (hc : isWordChar c = false ∧ c ∉ [',', ' ']) : c ∉ Text.join ", " params := by
  intro hmem
  rcases Text.mem_join hmem with hmem | ⟨p, hp, hmem⟩
  · exact hc.2 hmem
  · exact (hparams p hp).notMem hc.1 hmem

/-- after the opening parenthesis -/
theorem notMem_list {c : Char} (hc : isWordChar c = false ∧ c ∉ [',', ' '] ∧ c ∉ [')']) :
    c ∉ Text.join ", " params ++ [')'] :=
  fun hmem => (List.mem_append.1 hmem).elim (notMem_join_params hparams ⟨hc.1, hc.2.1⟩) hc.2.2

theorem notMem_parenthesized {c : Char} (hc : c ≠ '(' ∧ isWordChar c = false ∧ c ∉ [',', ' '] ∧ c ∉ [')']) :
    c ∉ parenthesized params :=
  List.not_mem_cons_of_ne_of_not_mem hc.1 (notMem_list hparams hc.2)

theorem notMem_plainHeader {x : Text} {c : Char} (hx : c ∉ x)
    (hc : c ≠ '(' ∧ isWordChar c = false ∧ c ∉ [',', ' '] ∧ c ∉ [')']) : c ∉ plainHeader x params := by
  have hdef : c ∉ "def ".toList := by
    have hword := (by decide : IsWord "def").notMem hc.2.1
    have hspace := hc.2.2.1
    simp only [List.mem_cons, not_or] at hspace
    simpa [hspace] using hword
  intro hmem
  rcases List.mem_append.1 hmem with hmem | hmem
  · exact hdef hmem
  · exact (List.mem_append.1 hmem).elim hx (notMem_parenthesized hparams hc)

theorem runs_join_params {t : Text} (ht : BeginsApart t) : runs (Text.join ", " params ++ t) = params ++ runs t := by
  induction params with
  | nil => rfl
  | cons p ps ih =>
    obtain ⟨hp, hps⟩ := List.forall_mem_cons.1 hparams
    by_cases hnil : ps = []
    · subst hnil
      rw [Text.join_singleton, runs_word hp ht]
      rfl
    · rw [Text.join_cons_of_ne hnil, List.append_assoc, List.append_assoc, runs_word hp (by exact rfl), List.cons_append]
      show p :: runs (',' :: ' ' :: (Text.join ", " ps ++ t)) = _
      rw [runs_other _ (by decide), runs_other _ (by decide), ih hps]

theorem runs_parenthesized : runs (parenthesized params) = params := by
  rw [parenthesized, runs_other _ (by decide), runs_join_params hparams (by exact rfl), runs_other _ (by decide), runs_nil,
    List.append_nil]

end

theorem runs_def (t : Text) : runs ("def " ++ t) = "def".toList :: runs t := by
  show runs ("def".toList ++ ' ' :: t) = _
  rw [runs_word (by decide) (by exact rfl), runs_other _ (by decide)]

/-! ## Calls -/

section

variable {name : Text} {params : List Text} (hname : IsWord name)

include hname in
/-- between the parentheses of a call stands something -/
theorem replaceCalls_bare (tables : Tables) : Edit.replaceCalls tables (plainHeader name []) = plainHeader name [] := by
  refine Edit.replaceCalls_eq_self fun b c a hstands => ?_
  have hparen : '(' ∉ "def ".toList ++ name := by simpa using hname.notMem (by decide)
  have htext : ("def ".toList ++ name) ++ '(' :: [')'] =
      (b ++ (c.name ++ c.space)) ++ '(' :: (c.arguments ++ ')' :: a) := by
    rw [List.append_assoc]
    refine hstands.1.trans ?_
    simp [BareCall.text]
  obtain ⟨-, -, hinner⟩ := (List.append_cons_inj_of_notMem hparen (by decide)).1 htext
  obtain ⟨x, arguments, harguments⟩ := List.exists_cons_of_ne_nil c.arguments_ne
  rw [harguments] at hinner
  simp at hinner

variable (hparams : ∀ p ∈ params, IsWord p)

/-- the name with the parameters as a call -/
def headerCall (hne : params ≠ []) : BareCall where
  name := name
  space := []
  arguments := Text.join ", " params
  name_ne := hname.ne_nil
  name_word := hname.all_word
  space_blank := by rintro _ ⟨⟩
  arguments_ne := join_params_ne hparams hne
  arguments_inner := by
    intro c hc
    rw [isInner, Bool.and_eq_true, bne_iff_ne, bne_iff_ne]
    constructor
    · rintro rfl
      exact notMem_join_params hparams (by decide) hc
    · rintro rfl
      exact notMem_join_params hparams (by decide) hc

theorem replaceCalls_plainHeader (tables : Tables) (hne : params ≠ []) :
    Edit.replaceCalls tables (plainHeader name params) = "def " ++ (headerCall hname hparams hne).renamed tables := by
  have hstands : BareCall.Stands (plainHeader name params) "def " (headerCall hname hparams hne) [] :=
    ⟨by simp [plainHeader, parenthesized, headerCall, BareCall.text], by rintro _ ⟨⟩; decide⟩
  rw [Edit.replaceCalls_of_stands tables hstands (by decide) List.not_mem_nil, List.append_nil]

include hname hparams

/-- a name without a method -/
theorem replaceCalls_of_none (hne : params ≠ []) (h : Tables.standard.functionsToMethods.get? name = none) :
    Edit.replaceCalls .standard (plainHeader name params) =
      plainHeader ((Tables.standard.functionsToFunctions.get? name).getD name) params := by
  rw [replaceCalls_plainHeader hname hparams _ hne, BareCall.renamed]
  simp only [headerCall, h]
  cases Tables.standard.functionsToFunctions.get? name <;> rfl

/-- a name with a method -/
theorem replaceCalls_of_method (hne : params ≠ []) {method : Text}
    (h : Tables.standard.functionsToMethods.get? name = some method) :
    Edit.replaceCalls .standard (plainHeader name params) = "def " ++ Guise.receiver params ++ '.' :: method := by
  have hsimple : (Text.join ", " params).all (fun x => isWordChar x || x == '.') = decide (params.length = 1) := by
    obtain ⟨p, ps, rfl⟩ := List.exists_cons_of_ne_nil hne
    by_cases hnil : ps = []
    · subst hnil
      rw [Text.join_singleton, List.all_eq_true.2 fun c hc => by rw [(hparams p (by simp)).all_word c hc, Bool.true_or]]
      rfl
    · have hcomma : ((", ".toList ++ Text.join ", " ps).all fun x => isWordChar x || x == '.') = false := rfl
      rw [Text.join_cons_of_ne hnil, List.append_assoc, List.all_append, hcomma, Bool.and_false]
      simp [hnil]
  rw [replaceCalls_plainHeader hname hparams _ hne, BareCall.renamed, Guise.receiver]
  simp only [headerCall, h, hsimple, decide_eq_true_eq]
  split <;> simp [parenthesized]

end

/-! ## After the calls -/

section

variable {x : Text} {params : List Text} (hparams : ∀ p ∈ params, IsWord p)
include hparams

theorem replaceConstructors_plainHeader (hparen : '(' ∉ x)
    (hlast : (Text.takeEndWhile isWordChar ("def " ++ x)).head?.any Char.isUpper = false) :
    Edit.replaceConstructors (plainHeader x params) = plainHeader x params := by
  refine Edit.replaceConstructors_eq_self fun w h => ?_
  rw [plainHeader, ← List.append_assoc] at h
  rwa [h.eq_takeEndWhile (by simpa using hparen) (notMem_list hparams (by decide))]

theorem replaceReserved_plainHeader (hwords : ∀ w ∈ runs x, w ∉ Edit.standardWords)
    (hfree : ∀ p ∈ params, p ∉ Edit.standardWords) :
    Edit.replaceReserved Edit.standardPatterns (plainHeader x params) = plainHeader x params := by
  refine Edit.replaceReserved_standard_eq_self ?_
  rw [plainHeader, runs_def, runs_append (.inr (by exact rfl)), runs_parenthesized hparams]
  exact List.forall_mem_cons.2 ⟨by decide, List.forall_mem_append.2 ⟨hwords, hfree⟩⟩

theorem replaceSelf_plainHeader (hdot : '.' ∉ x) : Edit.replaceSelf (plainHeader x params) = plainHeader x params :=
  Edit.replaceSelf_eq_self fun h => notMem_plainHeader hparams hdot (by decide) h.mem

/-- a name with one dot in it, before which stands another word -/
theorem replaceSelf_plainHeader_of_dot {y : Text} (hx : '.' ∉ x) (hy : '.' ∉ y)
    (hself : Text.takeEndWhile isWordChar ("def " ++ x) ≠ "self".toList) :
    Edit.replaceSelf (plainHeader (x ++ '.' :: y) params) = plainHeader (x ++ '.' :: y) params := by
  refine Edit.replaceSelf_eq_self fun h => hself ?_
  have hcut : plainHeader (x ++ '.' :: y) params = ("def " ++ x) ++ '.' :: (y ++ parenthesized params) := by
    simp [plainHeader]
  rw [hcut] at h
  refine (h.eq_takeEndWhile (by simpa using hx) fun hmem => ?_).symm
  exact (List.mem_append.1 hmem).elim hy (notMem_parenthesized hparams (by decide))

end

/-- a receiver with one method after it -/
theorem lastEdits_of_dot {x method : Text} (hmethod : IsWord method) (hfree : method ∉ Edit.standardWords)
    (hdot : '.' ∉ x) (hself : Text.takeEndWhile isWordChar x ≠ "self".toList)
    (hcall : ∀ w, ¬ WordBefore (x ++ '.' :: method) w '(') (hwords : ∀ w ∈ runs x, w ∉ Edit.standardWords) :
    Edit.lastEdits (x ++ '.' :: method) = x ++ '.' :: method := by
  refine Edit.lastEdits_eq_self (fun w h => absurd h (hcall w)) ?_ fun h => ?_
  · rw [runs_append (.inr (by exact rfl)), runs_other _ (by decide), runs_isWord hmethod]
    exact List.forall_mem_append.2 ⟨hwords, List.forall_mem_singleton.2 hfree⟩
  · exact hself (h.eq_takeEndWhile hdot (hmethod.notMem (by decide))).symm

section

variable {name : Text} {params : List Text} (hname : IsWord name) (hparams : ∀ p ∈ params, IsWord p)
  (hfree : ∀ w ∈ name :: params, w ∉ Edit.standardWords)
include hparams hfree

/-- a method of other parameters than the receiver itself -/
theorem lastEdits_receiver (hne : params ≠ ["self".toList]) {method : Text} (hmethod : IsWord method)
    (hfreeMethod : method ∉ Edit.standardWords) :
    Edit.lastEdits ("def " ++ Guise.receiver params ++ '.' :: method) =
      "def " ++ Guise.receiver params ++ '.' :: method := by
  obtain ⟨-, hfreeParams⟩ := List.forall_mem_cons.1 hfree
  have hparen : '(' ∉ method := hmethod.notMem (by decide)
  rw [Guise.receiver]
  split_ifs with hone
  · obtain ⟨p, rfl⟩ := List.length_eq_one_iff.1 hone
    have hp := hparams p (List.mem_singleton_self p)
    rw [Text.join_singleton]
    refine lastEdits_of_dot hmethod hfreeMethod (by simpa using hp.notMem (by decide)) ?_ ?_ ?_
    · rw [takeEndWhile_append hp.all_word (by decide)]
      rintro rfl
      exact hne rfl
    · intro w hw
      have hmem := hw.mem
      simp [hparen, hp.notMem (c := '(') (by decide)] at hmem
    · rw [runs_def, runs_isWord hp]
      exact List.forall_mem_cons.2 ⟨by decide, hfreeParams⟩
  · refine lastEdits_of_dot hmethod hfreeMethod ?_ ?_ ?_ ?_
    · simpa using notMem_parenthesized hparams (c := '.') (by decide)
    · have hclose : isWordChar ')' = false := by decide
      simp [parenthesized, Text.takeEndWhile, hclose]
    · have hlist : '(' ∉ (Text.join ", " params ++ [')']) ++ '.' :: method := fun hmem =>
        (List.mem_append.1 hmem).elim (notMem_list hparams (by decide)) (by simpa using hparen)
      exact fun w => WordBefore.not_of_apart (x := "def ") (by decide) hlist (by decide)
    · rw [runs_def, runs_parenthesized hparams]
      exact List.forall_mem_cons.2 ⟨by decide, hfreeParams⟩

include hname

theorem lastEdits_plainHeader (hlower : name.head?.any Char.isUpper = false) :
    Edit.lastEdits (plainHeader name params) = plainHeader name params := by
  obtain ⟨hfreeName, hfreeParams⟩ := List.forall_mem_cons.1 hfree
  rw [Edit.lastEdits, replaceConstructors_plainHeader hparams (hname.notMem (by decide)),
    replaceReserved_plainHeader hparams _ hfreeParams, replaceSelf_plainHeader hparams (hname.notMem (by decide))]
  · rw [runs_isWord hname]
    exact List.forall_mem_singleton.2 hfreeName
  · rwa [takeEndWhile_append hname.all_word (by decide)]

theorem lastEdits_of_capital (hcapital : name.head?.any Char.isUpper = true) :
    Edit.lastEdits (plainHeader name params) = plainHeader (name ++ ".new") params := by
  obtain ⟨hfreeName, hfreeParams⟩ := List.forall_mem_cons.1 hfree
  have hconstructor : Edit.replaceConstructors (plainHeader name params) = plainHeader (name ++ ".new") params := by
    rw [plainHeader, parenthesized, Edit.replaceConstructors_of_capital rfl hname hcapital (by decide) (by decide)
      (notMem_list hparams (by decide)), plainHeader, List.append_assoc]
    rfl
  rw [Edit.lastEdits, hconstructor, replaceReserved_plainHeader hparams _ hfreeParams]
  · refine replaceSelf_plainHeader_of_dot (y := "new") hparams (hname.notMem (by decide)) (by decide) ?_
    rw [takeEndWhile_append hname.all_word (by decide)]
    rintro rfl
    revert hcapital
    decide
  · show ∀ w ∈ runs (name ++ '.' :: "new".toList), w ∉ Edit.standardWords
    rw [runs_word hname (by exact rfl), runs_other _ (by decide), runs_isWord (by decide)]
    exact List.forall_mem_cons.2 ⟨hfreeName, List.forall_mem_singleton.2 (by decide)⟩

/-- the edits leave the header of the guise in which they see it -/
theorem lastEdits_of_takenFor {g : Guise} (h : TakenFor name params g) :
    Edit.lastEdits (Edit.replaceCalls .standard (plainHeader name params)) = g.header name params := by
  cases h with
  | bare hlower hnone =>
    subst hnone
    rw [replaceCalls_bare hname, lastEdits_plainHeader hname hparams hfree hlower, Guise.header]
  | unmapped hlower hne hmethod hfunction =>
    rw [replaceCalls_of_none hname hparams hne hmethod, hfunction, Option.getD_none,
      lastEdits_plainHeader hname hparams hfree hlower, Guise.header]
  | capital hcapital =>
    have hmethod : Tables.standard.functionsToMethods.get? name = none :=
      Option.eq_none_iff_forall_ne_some.2 fun method h => by
        rw [(standardMethods_word h).1] at hcapital
        cases hcapital
    have hfunction : Tables.standard.functionsToFunctions.get? name = none :=
      Option.eq_none_iff_forall_ne_some.2 fun function h => by
        rw [(standardFunctions_open h).1] at hcapital
        cases hcapital
    have hcalls : Edit.replaceCalls .standard (plainHeader name params) = plainHeader name params := by
      by_cases hne : params = []
      · rw [hne, replaceCalls_bare hname]
      · rw [replaceCalls_of_none hname hparams hne hmethod, hfunction, Option.getD_none]
    rw [hcalls, lastEdits_of_capital hname hparams hfree hcapital, Guise.header]
  | @method method hne hmethod =>
    obtain ⟨-, hword, hfreeMethod⟩ := standardMethods_word hmethod
    rw [replaceCalls_of_method hname hparams hne hmethod, Guise.header]
    by_cases hself : params = ["self".toList]
    · subst hself
      have hall : ∀ e ∈ Tables.standard.functionsToMethods.entries,
          Edit.lastEdits ("def self" ++ '.' :: e.2) = "def @" ++ e.2 := by decide +kernel
      rw [if_pos rfl]
      exact hall (name, method) (Table.mem_of_get? hmethod)
    · rw [if_neg hself]
      exact lastEdits_receiver hparams hfree hself hword hfreeMethod
  | function hne hmethod hfunction =>
    obtain ⟨-, hfreeParams⟩ := List.forall_mem_cons.1 hfree
    rw [replaceCalls_of_none hname hparams hne hmethod, hfunction, Option.getD_some]
    obtain ⟨-, rfl⟩ := standardFunctions_open hfunction
    rw [Edit.lastEdits, replaceConstructors_plainHeader hparams (by decide) (by decide),
      replaceReserved_plainHeader hparams (by decide +kernel) hfreeParams]
    exact replaceSelf_plainHeader_of_dot (x := "File") (y := "open") hparams (by decide) (by decide) (by decide)

/-- **What the edits make of a header** of words that are not reserved. -/
theorem edits_of_header :
    Edit.statement .standard (plainHeader name params) = .ok ((guise name params).header name params) := by
  have hsingle : '\'' ∉ plainHeader name params := notMem_plainHeader hparams (hname.notMem (by decide)) (by decide)
  have hdouble : '"' ∉ plainHeader name params := notMem_plainHeader hparams (hname.notMem (by decide)) (by decide)
  rw [Edit.statement_standard, Edit.replaceRawStrings_eq_self hsingle hdouble,
    Edit.replaceFormats_eq_self hsingle hdouble, lastEdits_of_takenFor hname hparams hfree (takenFor_guise name params)]

end

end Linewise
