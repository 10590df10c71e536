/-
The header of a definition, from the line to what is emitted.

A header that the edits leave as it is (`edits_of_header`) is rendered as a definition, and no decorator is pending after
it. What they take for a construction or a call is not a header any more: it is passed on as the edits leave it, and the
decorators before it still await their definition. `feed_definition_header` says so of the line of every header whose
words are not reserved; `property_of_len_misread` is a property called `len`, which is taken for a call.
-/
import Linewise.Proofs.Accounting
import Linewise.Proofs.HeaderEdits
import Linewise.Proofs.Lines
import Linewise.Proofs.Parameters

namespace Linewise

open Pattern

/-! ## What a definition is rendered as -/

/-- a list of parameters as it is rendered -/
def renderedParams (params : List Text) : Text :=
  if params = [] then [] else ' ' :: parenthesized params

/-- the header as it is rendered: a special name is mapped, and a leading `self` is left out -/
def renderedHeader (name : Text) (params : List Text) : Text :=
  "def " ++ ((Tables.standard.specialMethods.get? name).getD name ++
    renderedParams (if params.head? = some "self".toList then params.tail else params))

/-! ## Reading the parameters back -/

theorem parameters_of_isWord {p : Text} (hp : IsWord p) : parameters p = [p] :=
  parameters_of_isTrimmed hp.isToken.notMem_comma hp.isToken.isTrimmed

/-- what is written as a list of parameters is read back -/
theorem parameters_join {params : List Text} (hparams : ∀ p ∈ params, IsWord p) :
    parameters (Text.join ", " params) = params := by
  induction params with
  | nil => rfl
  | cons p ps ih =>
    obtain ⟨hp, hps⟩ := List.forall_mem_cons.1 hparams
    by_cases hnil : ps = []
    · subst hnil
      rw [Text.join_singleton, parameters_of_isWord hp]
    · rw [Text.join_cons_of_ne hnil, List.append_assoc]
      show parameters (p ++ ',' :: (" " ++ Text.join ", " ps)) = _
      have hblank : ∀ c ∈ (" " : Text), isBlank c = true := List.forall_mem_singleton.2 rfl
      rw [parameters_append, parameters_blanks_append hblank, parameters_of_isWord hp, ih hps]
      rfl

/-! ## What is not taken for a definition -/

theorem not_isHeader_of_notMem {t rest : Text} (h : '(' ∉ t) : ¬ IsHeader t rest := by
  rintro ⟨s, -, rfl⟩
  simp at h

theorem not_isHeader_plainHeader {x : Text} {params : List Text} {rest : Text} (hparen : '(' ∉ x) (hdot : '.' ∈ x) :
    ¬ IsHeader (plainHeader x params) rest := by
  intro h
  rw [plainHeader, ← List.append_assoc] at h
  have hstart := h.headerStart (by simpa using hparen)
  exact notMem_headerStart hstart (by decide) (by decide) (List.mem_append_right _ hdot)

section

variable {name : Text} {params : List Text} (hname : IsWord name) (hparams : ∀ p ∈ params, IsWord p)

include hparams in
/-- a method called on the parameters is not a header: no name stands before the parenthesis -/
theorem not_isHeader_methodCall {method rest : Text} (hmethod : IsWord method) :
    ¬ IsHeader ((Guise.methodCall method).header name params) rest := by
  have hparen : '(' ∉ method := hmethod.notMem (by decide)
  rw [Guise.header, Guise.receiver]
  split_ifs with hself hone
  · exact not_isHeader_of_notMem (by simpa using hparen)
  · have hlist : '(' ∉ Text.join ", " params := notMem_join_params hparams (by decide)
    refine not_isHeader_of_notMem ?_
    simp only [List.mem_append, List.mem_cons, not_or]
    exact ⟨⟨by decide, hlist⟩, by decide, hparen⟩
  · intro h
    have hstart : HeaderStart "def " :=
      IsHeader.headerStart (y := Text.join ", " params ++ [')'] ++ '.' :: method) h (by decide)
    have hlength := hstart.length_le
    revert hlength
    decide

include hname hparams in
/-- what is taken for a construction or a call is passed on as it is -/
theorem dispatch_of_takenFor {g : Guise} (h : TakenFor name params g) (hg : g ≠ .definition) (scope : Scope) :
    dispatch .standard scope (g.header name params) = ⟨some (g.header name params), none, scope⟩ := by
  cases h with
  | bare => exact absurd rfl hg
  | unmapped => exact absurd rfl hg
  | capital =>
    have hparen : '(' ∉ name ++ ".new".toList := by simpa using hname.notMem (by decide)
    exact dispatch_of_not_isHeader _ scope rfl fun rest => not_isHeader_plainHeader hparen (by simp)
  | @method method _ hmethod =>
    have hword := (standardMethods_word hmethod).2.1
    refine dispatch_of_not_isHeader _ scope ?_ fun rest => not_isHeader_methodCall hparams hword
    rw [Guise.header]
    split <;> rfl
  | function _ _ hfunction =>
    obtain ⟨-, rfl⟩ := standardFunctions_open hfunction
    exact dispatch_of_not_isHeader _ scope rfl fun rest =>
      not_isHeader_plainHeader (x := "File.open") (by decide) (by decide)

end

/-! ## What is rendered -/

theorem specialName_standard (name : Text) :
    specialName .standard name = (Tables.standard.specialMethods.get? name).getD name := by
  have hspecial : ∀ e ∈ Tables.standard.specialMethods.entries, e.2.isEmpty = false := by decide +kernel
  rw [specialName, Tables.lookup, Tables.table]
  cases h : Tables.standard.specialMethods.get? name with
  | none => rfl
  | some special =>
    simp only [hspecial (name, special) (Table.mem_of_get? h), Bool.false_eq_true, if_false]
    rfl

theorem dropReceiver_self (params : List Text) :
    dropReceiver ["self"] params = if params.head? = some "self".toList then params.tail else params := by
  cases params with
  | nil => rfl
  | cons p ps =>
    rw [dropReceiver, List.head?_cons, List.tail_cons]
    by_cases hp : p = "self".toList
    · subst hp
      rfl
    · rw [if_neg (by simpa using hp), if_neg (by simpa using hp)]

theorem definitionHeader_eq (name : Text) (params : List Text) :
    definitionHeader name params = "def " ++ (name ++ renderedParams params) := by
  rw [definitionHeader, renderedParams]
  cases params with
  | nil => simp
  | cons p ps => simp [parenthesized]

section

variable {name : Text} {params : List Text} (hname : IsWord name) (hparams : ∀ p ∈ params, IsWord p)
include hname hparams

/-- the header that comes through the edits is rendered as a definition -/
theorem dispatch_plainHeader {scope : Scope} (hstatic : scope.nextIsStatic = false) :
    dispatch .standard scope (plainHeader name params) =
      ⟨some (renderedHeader name params), some .definition, scope.undecorated⟩ := by
  have hline : '\n' ∉ Text.join ", " params := notMem_join_params hparams (by decide)
  have hdispatch := @dispatch_definition .standard scope " " name [] (Text.join ", " params) [] (by decide) hname
    (List.forall_mem_singleton.2 rfl) (List.forall_mem_nil _) hline (.inl rfl)
  have htext : plainHeader name params =
      "def".toList ++ (" ".toList ++ (name ++ ([] ++ '(' :: (Text.join ", " params ++ [')'])))) := rfl
  rw [htext, hdispatch, Scope.headerName, Scope.receivers, hstatic, if_neg Bool.false_ne_true,
    if_neg Bool.false_ne_true, specialName_standard, parameters_join hparams, definitionHeader_eq, dropReceiver_self,
    renderedHeader]

end

/-! ## From the line to what is emitted -/

namespace Assembler

/-- only the block opener is dropped from a statement that ends in another visible character -/
theorem statementText_opener {text : Text} {c : Char} (hc : isBlank c = false) (hlast : text.getLast? = some c) :
    statementText .standard false (text ++ [':']) = text := by
  obtain ⟨text, rfl⟩ := List.getLast?_eq_some_iff.1 hlast
  have hopener : (!Layout.standard.blockOpener.isEmpty &&
      Text.endsWith (text ++ [c] ++ [':']) Layout.standard.blockOpener) = true := by
    show List.isPrefixOf [':'] (text ++ [c] ++ [':']).reverse = true
    rw [List.reverse_append]
    rfl
  have hdropped : Text.dropEnd Layout.standard.blockOpener.length (text ++ [c] ++ [':']) = text ++ [c] := by
    rw [Text.dropEnd, List.length_append]
    exact List.take_left
  simp only [statementText, Bool.false_eq_true, if_false, hopener, if_true, hdropped, Text.trimRight_concat hc]

/-- a line that is a statement with a block opener after its indentation -/
theorem plainEvent_opener {config : Config} (hlayout : config.layout = .standard) {a : Assembler}
    (hmode : a.context.mode = .normal) {indentation text : Text}
    (hindent : ∀ c ∈ indentation, Indent.isIndentChar c = true) (hfirst : text.head? = some 'd')
    {c : Char} (hc : isBlank c = false) (hlast : text.getLast? = some c) :
    ∃ heading : Heading, heading.width = Indent.width indentation ∧
      a.plainEvent config (indentation ++ (text ++ [':'])) =
        .fresh heading false (fate config a.context.scope false text) := by
  have hsource := statementText_opener hc hlast
  obtain ⟨rest, rfl⟩ := List.head?_eq_some_iff.1 hfirst
  have hleading : Indent.leading (indentation ++ ('d' :: rest ++ [':'])) = indentation := by
    rw [Indent.leading, List.takeWhile_append_of_pos hindent, List.cons_append, List.takeWhile_cons, if_neg (by decide),
      List.append_nil]
  have htext : Indent.rest (indentation ++ ('d' :: rest ++ [':'])) = 'd' :: rest ++ [':'] := by
    rw [Indent.rest, List.dropWhile_append_of_pos hindent, List.cons_append, List.dropWhile_cons, if_neg (by decide),
      ← List.cons_append]
    exact Text.trimRight_concat (by decide) _
  have hcontinued : Text.endsWith ('d' :: rest ++ [':']) Layout.standard.continuationMarker = false := by
    show List.isPrefixOf ['\\'] ('d' :: rest ++ [':']).reverse = false
    rw [List.reverse_append]
    rfl
  have hopening : openingDelimiter? .standard ('d' :: rest ++ [':']) = none := rfl
  refine ⟨⟨Indent.width indentation, isBlockContinuation Layout.standard.continuationKeywords ('d' :: rest)⟩, rfl, ?_⟩
  simp only [plainEvent, htext, hleading, hlayout, hcontinued, hsource, hopening, hmode]
  rfl

/-- what becomes of a header -/
theorem fate_header {config : Config} (htables : config.tables = .standard) {scope : Scope}
    (hstatic : scope.nextIsStatic = false) {name : Text} {params : List Text} (hname : IsWord name)
    (hparams : ∀ p ∈ params, IsWord p) (hfree : ∀ w ∈ name :: params, Edit.Unreserved .standard w) :
    fate config scope false (plainHeader name params) =
      if guise name params = .definition then .emitted (some (renderedHeader name params)) scope.undecorated
      else .emitted (some ((guise name params).header name params)) scope := by
  have hedited := edits_of_header hname hparams fun w hw => (hfree w hw).notMem
  have hkept : ((guise name params).header name params).isEmpty = false := by
    obtain ⟨rest, hrest⟩ := List.head?_eq_some_iff.1 (Guise.head?_header name params (guise name params))
    rw [hrest]
    rfl
  rw [fate, htables, hedited]
  simp only [hkept, Bool.false_and, Bool.false_eq_true, if_false, Option.map_id_fun']
  split_ifs with h
  · rw [h, Guise.header, dispatch_plainHeader hname hparams hstatic]
    rfl
  · rw [dispatch_of_takenFor hname hparams (takenFor_guise name params) h]
    rfl

/-- **The line of a definition.** Outside block strings and continuations, and with no static decorator pending, a line
`def name(p, q):` of words that are not reserved gives one line of its own, at its own indentation. If the edits do not
take it for an expression, that is the header as it is rendered, and no decorator is pending after it. Otherwise it is
what the edits leave of the header, and every decorator that was pending still is. -/
theorem feed_definition_header {config : Config} (hlayout : config.layout = .standard) (htables : config.tables = .standard)
    {a : Assembler} (hmode : a.context.mode = .normal) (hstatic : a.context.scope.nextIsStatic = false)
    {indentation name lineEnd : Text} {params : List Text} (hindent : ∀ c ∈ indentation, Indent.isIndentChar c = true)
    (hname : IsWord name) (hparams : ∀ p ∈ params, IsWord p)
    (hfree : ∀ w ∈ name :: params, Edit.Unreserved .standard w) (hend : lineEnd ∈ Text.lineEnds) :
    let fed := a.feed config (indentation ++ (plainHeader name params ++ ':' :: lineEnd))
    ∃ lines, fed.1 = .ok lines ∧
      lines.filter OutLine.isOwn = [.statement (Indent.width indentation)
        (if guise name params = .definition then renderedHeader name params
          else (guise name params).header name params)] ∧
      fed.2.context.scope =
        if guise name params = .definition then a.context.scope.undecorated else a.context.scope := by
  intro fed
  have hlast : (plainHeader name params).getLast? = some ')' := by
    have hcut : plainHeader name params = ("def " ++ (name ++ '(' :: Text.join ", " params)) ++ [')'] := by
      simp [plainHeader, parenthesized]
    rw [hcut, List.getLast?_concat]
  have hline : Text.chomp (indentation ++ (plainHeader name params ++ ':' :: lineEnd)) =
      indentation ++ (plainHeader name params ++ [':']) := by
    have hcut : indentation ++ (plainHeader name params ++ ':' :: lineEnd) =
        indentation ++ (plainHeader name params ++ [':']) ++ lineEnd := by simp
    rw [hcut, Text.chomp_append_lineEnd _ hend]
    simp [Text.chomp, Text.dropEndWhile]
  obtain ⟨heading, hwidth, hevent⟩ := plainEvent_opener hlayout hmode hindent rfl (by decide) hlast
  have hfed : fed = (Event.fresh heading false (fate config a.context.scope false (plainHeader name params))).outcome
      config.layout.indentWidth a := by
    rw [show fed = _ from feed_plain config a _ (by rw [hmode]; exact Mode.noConfusion), hline, hevent]
  rw [hfed, fate_header htables hstatic hname hparams hfree, ← hwidth]
  split_ifs
  · exact ⟨_, rfl, by rw [Event.filter_isOwn_out]; rfl, rfl⟩
  · exact ⟨_, rfl, by rw [Event.filter_isOwn_out]; rfl, rfl⟩

/-- a special method after a property decorator -/
theorem special_method_after_property :
    let config : Config := { layout := .standard, tables := .standard }
    let a : Assembler := { context := { scope := { nextIsProperty := true } } }
    let fed := a.feed config "  def __init__(self, x):\n"
    fed.1.toOption.map (List.filter OutLine.isOwn) = some [.statement 2 "def initialize (x)"] ∧
      fed.2.context.scope.nextIsProperty = false := by
  intro config a fed
  have hfree : ∀ w ∈ ["__init__".toList, "self".toList, "x".toList], Edit.Unreserved .standard w := by
    simp only [List.forall_mem_cons]
    exact ⟨⟨_, Edit.reservedPatterns_standard, by decide +kernel⟩, ⟨_, Edit.reservedPatterns_standard, by decide +kernel⟩,
      ⟨_, Edit.reservedPatterns_standard, by decide +kernel⟩, by rintro _ ⟨⟩⟩
  obtain ⟨lines, hlines, hown, hscope⟩ := @feed_definition_header config rfl rfl a rfl rfl "  " "__init__" "\n"
    ["self", "x"] (List.all_eq_true.1 rfl) (by decide) (by decide) hfree (by decide)
  have hraw : "  ".toList ++ (plainHeader "__init__" ["self", "x"] ++ ':' :: "\n".toList) =
      "  def __init__(self, x):\n".toList := by decide +kernel
  have hguise : guise "__init__" ["self", "x"] = .definition := by decide +kernel
  have hrendered : OutLine.statement (Indent.width "  ") (renderedHeader "__init__" ["self", "x"]) =
      .statement 2 "def initialize (x)" := by decide +kernel
  have hfed : fed = a.feed config ("  ".toList ++ (plainHeader "__init__" ["self", "x"] ++ ':' :: "\n".toList)) :=
    congrArg (a.feed config) hraw.symm
  rw [if_pos hguise] at hown hscope
  rw [hrendered] at hown
  rw [hfed, hlines, hscope]
  exact ⟨congrArg some hown, rfl⟩

/-- a property called `len` is taken for the length of its receiver, and the mark is left for the next definition -/
theorem property_of_len_misread :
    let config : Config := { layout := .standard, tables := .standard }
    let a := (Assembler.feed config {} "@property").2
    let fed := a.feed config "def len(self):"
    a.context.mode = .normal ∧ a.context.scope = { nextIsProperty := true } ∧
      (∀ w ∈ ["len".toList, "self".toList], Edit.Unreserved .standard w) ∧
      renderedHeader "len" ["self"] = "def len".toList ∧
      fed.1.toOption = some [.statement 0 "def @length"] ∧ fed.2.context.scope.nextIsProperty = true := by
  refine ⟨by decide +kernel, by decide +kernel, ?_, by decide +kernel, by decide +kernel, by decide +kernel⟩
  simp only [List.forall_mem_cons]
  exact ⟨⟨_, Edit.reservedPatterns_standard, by decide +kernel⟩, ⟨_, Edit.reservedPatterns_standard, by decide +kernel⟩,
    by rintro _ ⟨⟩⟩

end Assembler

end Linewise
