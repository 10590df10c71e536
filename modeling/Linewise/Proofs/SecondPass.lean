/-
Converting what was converted.

The output of a conversion can be converted again. Its terminators are statements then, each one unit shallower than the
line before it, so a way back over several units that was one dedent the first time is a chain of single ones: before
each old terminator stands just one new one, at the same depth, and the statement after the chain closes nothing
(`rereads_terminators`). Nothing is asked of the indentation of the input; at a width that is no multiple of the unit,
or where a unit does not fit any more, the chain stops where it stopped the first time.

`KeepsUp` is what a call of the first conversion and the calls that read its lines again keep: the second one rests where
the first one stands, and owes no blank line.
-/
import Linewise.Proofs.Accounting
import Linewise.Proofs.EntryPoints

namespace Linewise.Assembler

/-! ## Lines that are read again -/

/-- what a line is when it is read outside block strings and continuations: a statement with this heading that is not
continued and of which the edits leave something -/
structure ReadsAs (config : Config) (line : Text) (heading : Heading) : Prop where
  nonblank : Indent.rest line.chomp ≠ []
  width : Indent.width (Indent.leading line.chomp) = heading.width
  complete : (Indent.rest line.chomp).endsWith config.layout.continuationMarker = false
  unquoted : openingDelimiter? config.layout (Indent.rest line.chomp) = none
  continues : isBlockContinuation config.layout.continuationKeywords
    (statementText config.layout false (Indent.rest line.chomp)) = heading.continues
  kept : Edit.statement config.tables (statementText config.layout false (Indent.rest line.chomp)) ≠ .ok []

instance (config : Config) (line : Text) (heading : Heading) : Decidable (ReadsAs config line heading) :=
  decidable_of_iff
    (Indent.rest line.chomp ≠ [] ∧ Indent.width (Indent.leading line.chomp) = heading.width ∧
      (Indent.rest line.chomp).endsWith config.layout.continuationMarker = false ∧
      openingDelimiter? config.layout (Indent.rest line.chomp) = none ∧
      isBlockContinuation config.layout.continuationKeywords
        (statementText config.layout false (Indent.rest line.chomp)) = heading.continues ∧
      Edit.statement config.tables (statementText config.layout false (Indent.rest line.chomp)) ≠ .ok [])
    ⟨fun ⟨nonblank, width, complete, unquoted, continues, kept⟩ =>
        ⟨nonblank, width, complete, unquoted, continues, kept⟩,
      fun h => ⟨h.nonblank, h.width, h.complete, h.unquoted, h.continues, h.kept⟩⟩

/-- a blank line, the end of the input, or a statement that is neither continued nor suppressed nor emptied -/
def Event.isPlain : Event → Bool
  | .blank => true
  | .fresh _ false (.emitted (some _) _) => true
  | .finish _ => true
  | _ => false

/-- the heading with which a line that came out of the call `e` is to be read again; a blank line has none -/
def Event.headingOf? (e : Event) : OutLine → Option Heading
  | .terminator depth => some ⟨depth, false⟩
  | .statement _ _ => e.heading?
  | _ => none

/-- a call of plain input, whose terminators and whose statement, as they are written, read as what they are -/
structure Turn.IsRereadable (config : Config) (t : Turn) : Prop where
  plain : t.event.isPlain = true
  lines : ∀ line ∈ t.out, ∀ heading ∈ t.event.headingOf? line, ReadsAs config (line.render config.layout) heading

instance (config : Config) (t : Turn) : Decidable (t.IsRereadable config) :=
  decidable_of_iff
    (t.event.isPlain = true ∧
      ∀ line ∈ t.out, ∀ heading ∈ t.event.headingOf? line, ReadsAs config (line.render config.layout) heading)
    ⟨fun ⟨plain, lines⟩ => ⟨plain, lines⟩, fun h => ⟨h.plain, h.lines⟩⟩

/-- what a line of the output is when it is read again -/
inductive ReadAgain : OutLine → Event → Prop
  | terminator (depth : Nat) (own : Option Text) (scope : Scope) :
      ReadAgain (.terminator depth) (.fresh ⟨depth, false⟩ false (.emitted own scope))
  | blank (width : Nat) : ReadAgain (.blank width) .blank
  | statement (heading : Heading) (text : Text) (own : Option Text) (scope : Scope) :
      ReadAgain (.statement heading.width text) (.fresh heading false (.emitted own scope))

/-- the output of a second conversion beside that of the first: one more terminator before each of the old ones, which are
statements now, the same blank lines, and statements for statements; the dispatch may leave out any of these -/
inductive Echoes : List OutLine → List OutLine → Prop
  | nil : Echoes [] []
  | terminator {ls again : List OutLine} (depth : Nat) (own : Option Text) (h : Echoes ls again) :
      Echoes (.terminator depth :: ls) (.terminator depth :: ((own.map (.statement depth)).toList ++ again))
  | blank {ls again : List OutLine} (width : Nat) (h : Echoes ls again) :
      Echoes (.blank width :: ls) (.blank width :: again)
  | statement {ls again : List OutLine} (width : Nat) (text : Text) (own : Option Text) (h : Echoes ls again) :
      Echoes (.statement width text :: ls) ((own.map (.statement width)).toList ++ again)

namespace Echoes

variable {ls ms again more : List OutLine}

theorem append (h : Echoes ls again) (h' : Echoes ms more) : Echoes (ls ++ ms) (again ++ more) := by
  induction h with
  | nil => exact h'
  | terminator depth own _ ih =>
    rw [List.cons_append, List.cons_append, List.append_assoc]
    exact ih.terminator depth own
  | blank width _ ih => exact ih.blank width
  | statement width text own _ ih =>
    rw [List.cons_append, List.append_assoc]
    exact ih.statement width text own

theorem blanks (n width : Nat) : Echoes (List.replicate n (.blank width)) (List.replicate n (.blank width)) := by
  induction n with
  | zero => exact .nil
  | succ n ih => exact ih.blank width

/-- the new terminators are the old ones, at the same depths in the same order -/
theorem filter_isTerminator (h : Echoes ls again) :
    again.filter OutLine.isTerminator = ls.filter OutLine.isTerminator := by
  induction h with
  | nil => rfl
  | terminator depth own _ ih =>
    cases own <;> simp [List.filter_cons, OutLine.isTerminator, ih]
  | blank width _ ih => simp [OutLine.isTerminator, ih]
  | statement width text own _ ih => cases own <;> simp [OutLine.isTerminator, ih]

theorem countP_isTerminator (h : Echoes ls again) :
    again.countP OutLine.isTerminator = ls.countP OutLine.isTerminator := by
  rw [List.countP_eq_length_filter, h.filter_isTerminator, List.countP_eq_length_filter]

theorem filter_isBlank (h : Echoes ls again) : again.filter OutLine.isBlank = ls.filter OutLine.isBlank := by
  induction h with
  | nil => rfl
  | terminator depth own _ ih => cases own <;> simp [OutLine.isBlank, ih]
  | blank width _ ih => simp [List.filter_cons, OutLine.isBlank, ih]
  | statement width text own _ ih => cases own <;> simp [OutLine.isBlank, ih]

end Echoes

/-! ## One line of the second conversion -/

/-- outside block strings and continuations the line is a statement with this heading, neither continued nor emptied -/
def IsStatement (config : Config) (line : Text) (heading : Heading) : Prop :=
  ∀ a : Assembler, a.context.mode = .normal →
    ∃ own scope, a.event config (.feed line) = .fresh heading false (.emitted own scope)

theorem ReadsAs.isStatement {config : Config} {line : Text} {heading : Heading} (h : ReadsAs config line heading)
    (hcompile : config.tables.Compile) : IsStatement config line heading := by
  intro a hmode
  have hempty : (Indent.rest line.chomp).isEmpty = false := List.isEmpty_eq_false_iff.2 h.nonblank
  obtain ⟨edited, hedited⟩ := Edit.exists_run hcompile Edit.Step.all
    (statementText config.layout false (Indent.rest line.chomp))
  have hkept : edited.isEmpty = false := by
    rw [List.isEmpty_eq_false_iff]
    rintro rfl
    exact h.kept hedited
  simp only [event, hmode, reduceCtorEq, if_false, plainEvent, hempty, h.complete, h.unquoted, h.continues, h.width,
    fate, Edit.statement, hedited, hkept, Bool.false_and, Bool.false_eq_true]
  exact ⟨_, _, rfl⟩

/-- the assembler rests at a depth, outside block strings and continuations, and owes some blank lines -/
structure RestsAt (a : Assembler) (depth owed : Nat) : Prop where
  mode : a.context.mode = .normal
  margin : a.context.margin = ⟨depth, depth, owed⟩

section

variable {b : Assembler} {depth owed : Nat}

theorem RestsAt.turn_statement (h : RestsAt b depth owed) {config : Config} {line : Text} {heading : Heading}
    (hline : IsStatement config line heading) :
    ∃ own scope, (b.turn config (.feed line)).event = .fresh heading false (.emitted own scope) ∧
      (b.turn config (.feed line)).out =
        (closeBlocks config.layout.indentWidth heading.continues ⟨heading.width, depth, owed⟩).1 ++
          (own.map (.statement heading.width)).toList ∧
      RestsAt (b.turn config (.feed line)).after heading.width 0 := by
  obtain ⟨own, scope, hevent⟩ := hline b h.mode
  refine ⟨own, scope, hevent, ?_, ?_⟩
  · rw [turn_out, hevent, h.margin]
    rfl
  · rw [turn_after, hevent]
    exact ⟨rfl, rfl⟩

theorem rest_chomp_spaces (width : Nat) : Indent.rest (Text.spaces width).chomp = [] := by
  have hchomp : (Text.spaces width).chomp = Text.spaces width := by
    simp [Text.chomp, Text.dropEndWhile, Text.spaces]
  have hall : (Text.spaces width).dropWhile Indent.isIndentChar = [] := by
    simp [Text.spaces, Indent.isIndentChar]
  rw [hchomp, Indent.rest, hall]
  rfl

theorem RestsAt.turn_blank (h : RestsAt b depth owed) (config : Config) (width : Nat) :
    (b.turn config (.feed (Text.spaces width))).event = .blank ∧
      (b.turn config (.feed (Text.spaces width))).out = [] ∧
      RestsAt (b.turn config (.feed (Text.spaces width))).after depth (owed + 1) := by
  have hevent : b.event config (.feed (Text.spaces width)) = .blank := by
    simp only [event, h.mode, reduceCtorEq, if_false, plainEvent, rest_chomp_spaces, List.isEmpty_nil, if_true]
  refine ⟨hevent, ?_, ?_⟩
  · rw [turn_out, hevent]
    rfl
  · rw [turn_after, hevent]
    refine ⟨h.mode, ?_⟩
    show Event.marginAfter b.context.margin .blank = _
    rw [h.margin]
    rfl

end

/-! ## Several lines of the second conversion -/

/-- the calls that feed lines as they are written -/
def feeds (layout : Layout) (ls : List OutLine) : List Call := ls.map fun l => .feed (l.render layout)

/-- feeding the lines `ls` takes `a` to `b` and gives `again`, and each of them turns out to be what it should -/
structure Rereads (config : Config) (a b : Assembler) (ls again : List OutLine) : Prop where
  after : a.stateAfter config (feeds config.layout ls) = b
  out : (a.turns config (feeds config.layout ls)).flatMap Turn.out = again
  each : List.Forall₂ (fun l t => ReadAgain l t.event) ls (a.turns config (feeds config.layout ls))

namespace Rereads

variable {config : Config} {a b c : Assembler} {ls ms again more : List OutLine}

theorem nil (a : Assembler) : Rereads config a a [] [] := ⟨rfl, rfl, .nil⟩

theorem single {line : OutLine} (h : ReadAgain line (a.turn config (.feed (line.render config.layout))).event) :
    Rereads config a (a.turn config (.feed (line.render config.layout))).after [line]
      (a.turn config (.feed (line.render config.layout))).out :=
  ⟨rfl, List.append_nil _, .cons h .nil⟩

theorem append (h : Rereads config a b ls again) (h' : Rereads config b c ms more) :
    Rereads config a c (ls ++ ms) (again ++ more) := by
  have hfeeds : feeds config.layout (ls ++ ms) = feeds config.layout ls ++ feeds config.layout ms := List.map_append
  have hturns := turns_append config a (feeds config.layout ls) (feeds config.layout ms)
  rw [h.after] at hturns
  refine ⟨?_, ?_, ?_⟩
  · rw [hfeeds, stateAfter_append, h.after, h'.after]
  · rw [hfeeds, hturns, List.flatMap_append, h.out, h'.out]
  · rw [hfeeds, hturns]
    exact List.rel_append h.each h'.each

end Rereads

theorem rereads_blanks {config : Config} {b : Assembler} {depth owed : Nat} (hb : RestsAt b depth owed) (n width : Nat) :
    ∃ c, Rereads config b c (List.replicate n (.blank width)) [] ∧ RestsAt c depth (owed + n) := by
  induction n generalizing b owed with
  | zero => exact ⟨b, .nil b, hb⟩
  | succ n ih =>
    obtain ⟨hevent, hout, hafter⟩ := hb.turn_blank config width
    obtain ⟨c, hrest, hc⟩ := ih hafter
    have hfirst : ReadAgain (.blank width)
        (b.turn config (.feed ((OutLine.blank width).render config.layout))).event := by
      rw [OutLine.render, hevent]
      exact .blank width
    refine ⟨c, ?_, ?_⟩
    · have hboth := (Rereads.single hfirst).append hrest
      rw [OutLine.render, hout] at hboth
      exact hboth
    · rw [Nat.add_right_comm] at hc
      exact hc

/-- nothing closes on the way to a statement that is as deep, or that continues the block one unit further out -/
theorem closingDepths_eq_nil_iff {unit target fuel depth : Nat} {continues : Bool} (hfuel : depth ≤ fuel) :
    closingDepths unit target continues fuel depth = [] ↔
      depth ≤ target ∨ (depth - unit = target ∧ continues = true) := by
  cases fuel with
  | zero =>
    obtain rfl := Nat.le_zero.1 hfuel
    exact iff_of_true rfl (.inl (Nat.zero_le _))
  | succ fuel =>
    rw [closingDepths]
    split_ifs with hlt hlast
    · exact iff_of_true rfl (.inr hlast)
    · simp [Nat.not_le.2 hlt, hlast]
    · exact iff_of_true rfl (.inl (Nat.not_lt.1 hlt))

/-- the block that one terminator ends is the only one that closes on the way to it -/
theorem closeBlocks_sub {unit depth : Nat} (hunit : 0 < unit) (hdepth : 0 < depth) :
    (closeBlocks unit false ⟨depth - unit, depth, 0⟩).1 = [.terminator (depth - unit)] := by
  obtain ⟨fuel, rfl⟩ : ∃ fuel, depth = fuel + 1 := ⟨depth - 1, by omega⟩
  have hlt : fuel + 1 - unit < fuel + 1 := by omega
  rw [closeBlocks, closingDepths, if_pos hlt, if_neg (by simp), closingDepths_of_le false fuel (Nat.le_refl _)]
  rfl

/-- **The old terminators of a dedent.** Each of them gives one new terminator, at its own depth; after the last of them
nothing is left to close before the statement they stood before. -/
theorem rereads_terminators {config : Config} (hunit : 0 < config.layout.indentWidth) {target fuel depth : Nat}
    {continues : Bool} {b : Assembler} (hfuel : depth ≤ fuel) (hb : RestsAt b depth 0)
    (hlines : ∀ d ∈ closingDepths config.layout.indentWidth target continues fuel depth,
      IsStatement config ((OutLine.terminator d).render config.layout) ⟨d, false⟩) :
    ∃ c last again,
      Rereads config b c ((closingDepths config.layout.indentWidth target continues fuel depth).map .terminator) again ∧
      Echoes ((closingDepths config.layout.indentWidth target continues fuel depth).map .terminator) again ∧
      RestsAt c last 0 ∧ closingDepths config.layout.indentWidth target continues last last = [] := by
  induction fuel generalizing depth b with
  | zero =>
    obtain rfl := Nat.le_zero.1 hfuel
    exact ⟨b, 0, [], .nil b, .nil, hb, rfl⟩
  | succ fuel ih =>
    by_cases hstop : depth ≤ target ∨ (depth - config.layout.indentWidth = target ∧ continues = true)
    · rw [(closingDepths_eq_nil_iff hfuel).2 hstop]
      exact ⟨b, depth, [], .nil b, .nil, hb, (closingDepths_eq_nil_iff (Nat.le_refl _)).2 hstop⟩
    · obtain ⟨hlt, hlast⟩ := not_or.1 hstop
      rw [Nat.not_le] at hlt
      have hdepths : closingDepths config.layout.indentWidth target continues (fuel + 1) depth =
          (depth - config.layout.indentWidth) ::
            closingDepths config.layout.indentWidth target continues fuel (depth - config.layout.indentWidth) := by
        rw [closingDepths, if_pos hlt, if_neg hlast]
      rw [hdepths] at hlines ⊢
      obtain ⟨hline, hlines⟩ := List.forall_mem_cons.1 hlines
      obtain ⟨own, scope, hevent, hout, hafter⟩ := hb.turn_statement hline
      have hshallower : depth - config.layout.indentWidth ≤ fuel := by omega
      obtain ⟨c, last, again, hrest, hechoes, hc, hclosed⟩ := ih hshallower hafter hlines
      have hfirst : ReadAgain (.terminator (depth - config.layout.indentWidth)) (b.turn config
          (.feed ((OutLine.terminator (depth - config.layout.indentWidth)).render config.layout))).event := by
        rw [hevent]
        exact .terminator _ own scope
      refine ⟨c, last, _, (Rereads.single hfirst).append hrest, ?_, hc, hclosed⟩
      rw [hout, closeBlocks_sub hunit (by omega)]
      exact hechoes.terminator _ own

/-- the terminators and the blank lines of one call: what is released after them are the blank lines alone -/
theorem rereads_released {config : Config} (hunit : 0 < config.layout.indentWidth) {target depth owed : Nat}
    {continues : Bool} {b : Assembler} (hb : RestsAt b depth 0)
    (hlines : ∀ d, .terminator d ∈ (closeBlocks config.layout.indentWidth continues ⟨target, depth, owed⟩).1 →
      IsStatement config ((OutLine.terminator d).render config.layout) ⟨d, false⟩) :
    ∃ c last again,
      Rereads config b c (closeBlocks config.layout.indentWidth continues ⟨target, depth, owed⟩).1 again ∧
      RestsAt c last owed ∧
      (closeBlocks config.layout.indentWidth continues ⟨target, last, owed⟩).1 = List.replicate owed (.blank target) ∧
      Echoes (closeBlocks config.layout.indentWidth continues ⟨target, depth, owed⟩).1
        (again ++ List.replicate owed (.blank target)) := by
  have hterminators : ∀ d ∈ closingDepths config.layout.indentWidth target continues depth depth,
      IsStatement config ((OutLine.terminator d).render config.layout) ⟨d, false⟩ :=
    fun d hd => hlines d (List.mem_append_left _ (List.mem_map_of_mem hd))
  obtain ⟨c, last, again, hfirst, hechoes, hc, hclosed⟩ := rereads_terminators hunit (Nat.le_refl depth) hb hterminators
  obtain ⟨c', hblanks, hc'⟩ := rereads_blanks hc owed target
  rw [Nat.zero_add] at hc'
  refine ⟨c', last, again, ?_, hc', ?_, hechoes.append (.blanks owed target)⟩
  · have hboth := hfirst.append hblanks
    rw [List.append_nil] at hboth
    exact hboth
  · rw [closeBlocks, hclosed]
    rfl

/-! ## Both conversions side by side -/

/-- the second conversion rests where the first one stands and owes no blank line; where the first one stands deeper than
the margin, it has emitted a statement, so the reserved words compile -/
structure KeepsUp (config : Config) (a b : Assembler) : Prop where
  rest : a.context.margin.previous = a.context.margin.current
  again : RestsAt b a.context.margin.current 0
  compile : 0 < a.context.margin.current → config.tables.Compile

theorem compile_of_emitted {config : Config} {a : Assembler} {c : Call} {heading : Heading} {continued : Bool}
    {own : Option Text} {scope : Scope} (h : a.event config c = .fresh heading continued (.emitted own scope)) :
    config.tables.Compile := by
  have hnone : (a.event config c).fault? = none := by
    rw [h]
    rfl
  refine (fault_event_eq_none_iff.1 hnone).resolve_right fun hfresh => ?_
  rw [h] at hfresh
  cases hfresh

theorem Event.eq_of_isPlain {e : Event} (h : e.isPlain = true) :
    e = .blank ∨ (∃ heading text scope, e = .fresh heading false (.emitted (some text) scope)) ∨ e.isFinish = true := by
  cases e with
  | blank => exact .inl rfl
  | finish mode => exact .inr (.inr rfl)
  | fresh heading continued made =>
    cases made with
    | emitted own scope =>
      cases continued with
      | true => cases h
      | false =>
        cases own with
        | none => cases h
        | some text => exact .inr (.inl ⟨heading, text, scope, rfl⟩)
    | _ => cases continued <;> cases h
  | _ => cases h

/-- **One more line.** What comes out of a call on the first conversion is read again by the second one, which gives the
same terminators and blank lines; both stay in step. -/
theorem keepsUp_feed {config : Config} (hunit : 0 < config.layout.indentWidth) {a b : Assembler}
    (h : KeepsUp config a b) {line : Text} (hline : (a.turn config (.feed line)).IsRereadable config) :
    ∃ c again, Rereads config b c (a.turn config (.feed line)).out again ∧
      Echoes (a.turn config (.feed line)).out again ∧ KeepsUp config (a.turn config (.feed line)).after c := by
  obtain ⟨hplain, hlines⟩ := hline
  rw [turn_event] at hplain hlines
  rw [turn_out] at hlines ⊢
  rw [turn_after]
  rcases Event.eq_of_isPlain hplain with hblank | ⟨heading, text, scope, hevent⟩ | hfinish
  · rw [hblank]
    exact ⟨b, [], .nil b, .nil, ⟨rfl, h.again, h.compile⟩⟩
  · have hcompile := compile_of_emitted hevent
    rw [hevent] at hlines ⊢
    have hout : (Event.fresh heading false (.emitted (some text) scope)).out config.layout.indentWidth
        a.context.margin =
      (closeBlocks config.layout.indentWidth heading.continues
        ⟨heading.width, a.context.margin.current, a.context.margin.pendingBlanks⟩).1 ++
          [.statement heading.width text] := rfl
    rw [hout] at hlines ⊢
    obtain ⟨c, last, again, hreleased, hc, hnothing, hechoes⟩ := rereads_released hunit h.again
      fun d hd => (hlines _ (List.mem_append_left _ hd) ⟨d, false⟩ rfl).isStatement hcompile
    have hstatement : IsStatement config ((OutLine.statement heading.width text).render config.layout) heading :=
      (hlines _ (List.mem_append_right _ (List.mem_singleton.2 rfl)) heading rfl).isStatement hcompile
    obtain ⟨own, scope', hread, hgives, hafter⟩ := hc.turn_statement hstatement
    have hlast : ReadAgain (.statement heading.width text)
        (c.turn config (.feed ((OutLine.statement heading.width text).render config.layout))).event := by
      rw [hread]
      exact .statement heading text own scope'
    refine ⟨_, _, hreleased.append (.single hlast), ?_, ⟨rfl, hafter, fun _ => hcompile⟩⟩
    rw [hgives, hnothing, ← List.append_assoc]
    have hown := Echoes.nil.statement heading.width text own
    rw [List.append_nil] at hown
    exact hechoes.append hown
  · rw [event_feed_isFinish] at hfinish
    cases hfinish

/-- **All lines.** The same for the lines of a whole input. -/
theorem keepsUp_feeds {config : Config} (hunit : 0 < config.layout.indentWidth) (lines : List Text) {a b : Assembler}
    (h : KeepsUp config a b) (hlines : ∀ t ∈ a.turns config (lines.map .feed), t.IsRereadable config) :
    ∃ c again, Rereads config b c ((a.turns config (lines.map .feed)).flatMap Turn.out) again ∧
      Echoes ((a.turns config (lines.map .feed)).flatMap Turn.out) again ∧
      KeepsUp config (a.stateAfter config (lines.map .feed)) c := by
  induction lines generalizing a b with
  | nil => exact ⟨b, [], .nil b, .nil, h⟩
  | cons line rest ih =>
    obtain ⟨hline, hrest⟩ := List.forall_mem_cons.1 hlines
    obtain ⟨c, again, hreads, hechoes, hc⟩ := keepsUp_feed hunit h hline
    obtain ⟨d, more, hreads', hechoes', hd⟩ := ih hc hrest
    exact ⟨d, again ++ more, hreads.append hreads', hechoes.append hechoes', hd⟩

/-- **The end of the input.** What comes out of it is read again too, and what the second conversion then still owes are
the blank lines at the end. -/
theorem keepsUp_finish {config : Config} (hunit : 0 < config.layout.indentWidth) {a b : Assembler}
    (h : KeepsUp config a b) (hfinish : (a.turn config .finish).IsRereadable config) :
    ∃ c again, Rereads config b c (a.turn config .finish).out again ∧
      Echoes (a.turn config .finish).out (again ++ (c.turn config .finish).out) := by
  have hout : (a.turn config .finish).out = (closeBlocks config.layout.indentWidth false
      ⟨0, a.context.margin.previous, a.context.margin.pendingBlanks⟩).1 := by
    rw [turn_out]
    exact List.append_nil _
  have hlines := hfinish.lines
  rw [hout, h.rest] at hlines
  rw [hout, h.rest]
  have hterminators : ∀ d, .terminator d ∈ (closeBlocks config.layout.indentWidth false
      ⟨0, a.context.margin.current, a.context.margin.pendingBlanks⟩).1 →
        IsStatement config ((OutLine.terminator d).render config.layout) ⟨d, false⟩ := by
    intro d hd
    refine (hlines _ hd ⟨d, false⟩ rfl).isStatement (h.compile (Nat.pos_of_ne_zero fun hzero => ?_))
    -- nothing closes at the end of an input that stands at the margin
    rw [hzero] at hd
    rcases List.mem_append.1 hd with hdepth | hblank
    · cases hdepth
    · cases List.eq_of_mem_replicate hblank
  obtain ⟨c, last, again, hreads, hc, hnothing, hechoes⟩ := rereads_released hunit h.again hterminators
  have hend : (c.turn config .finish).out =
      List.replicate a.context.margin.pendingBlanks (.blank 0) := by
    rw [← hnothing, turn_out, hc.margin]
    exact List.append_nil _
  rw [← hend] at hechoes
  exact ⟨c, again, hreads, hechoes⟩

theorem Event.fault_of_isPlain {e : Event} (h : e.isPlain = true) : e.fault? = none := by
  rcases eq_of_isPlain h with rfl | ⟨heading, text, scope, rfl⟩ | hfinish
  · rfl
  · rfl
  · cases e with
    | finish mode => rfl
    | _ => cases hfinish

theorem ReadAgain.fault {line : OutLine} {e : Event} (h : ReadAgain line e) : e.fault? = none := by
  cases h <;> rfl

theorem fault_of_readAgain {ls : List OutLine} {ts : List Turn}
    (h : List.Forall₂ (fun line t => ReadAgain line t.event) ls ts) : ∀ t ∈ ts, t.event.fault? = none := by
  induction h with
  | nil => exact List.forall_mem_nil _
  | cons hline _ ih => exact List.forall_mem_cons.2 ⟨hline.fault, ih⟩

/-- what the second conversion is, once the lines of the first are known to be read again -/
theorem Rereads.ofLines {config : Config} {c : Assembler} {ls again : List OutLine}
    (h : Rereads config {} c ls again) :
    (Conversion.ofLines config (ls.map (OutLine.render config.layout))).fault = none ∧
      (Conversion.ofLines config (ls.map (OutLine.render config.layout))).lines =
        again ++ (c.turn config .finish).out := by
  have hcalls : wholeInput (ls.map (OutLine.render config.layout)) = feeds config.layout ls ++ [.finish] := by
    rw [wholeInput, List.map_map]
    rfl
  have hturns : turns config {} (wholeInput (ls.map (OutLine.render config.layout))) =
      turns config {} (feeds config.layout ls) ++ [c.turn config .finish] := by
    rw [hcalls, turns_append, h.after]
    rfl
  have hok : ∀ t ∈ turns config {} (wholeInput (ls.map (OutLine.render config.layout))), t.result.isOk = true := by
    intro t ht
    refine (isOk_iff_of_mem ht).2 ?_
    rw [hturns] at ht
    rcases List.mem_append.1 ht with hfeed | hfinish
    · exact fault_of_readAgain h.each t hfeed
    · rw [List.mem_singleton.1 hfinish]
      rfl
  have hfault := fault_eq_none_of_isOk hok
  obtain ⟨-, hlines, -⟩ := run_of_fault_none hfault
  refine ⟨hfault, ?_⟩
  rw [Conversion.ofLines, hlines, hturns, List.flatMap_append, h.out, List.flatMap_singleton]

/-- the output of a whole conversion is read again, and echoed when the second one ends -/
theorem exists_rereads {config : Config} (hunit : 0 < config.layout.indentWidth) {lines : List Text}
    (hlines : ∀ t ∈ history config lines, t.IsRereadable config) :
    ∃ c again, Rereads config {} c ((history config lines).flatMap Turn.out) again ∧
      Echoes ((history config lines).flatMap Turn.out) (again ++ (c.turn config .finish).out) := by
  have hhistory : history config lines = turns config {} (lines.map .feed) ++
      [(stateAfter config {} (lines.map .feed)).turn config .finish] := turns_append config {} (lines.map .feed) [.finish]
  rw [hhistory] at hlines ⊢
  have hfeeds : ∀ t ∈ turns config {} (lines.map .feed), t.IsRereadable config :=
    fun t ht => hlines t (List.mem_append_left _ ht)
  have hend := hlines _ (List.mem_append_right _ (List.mem_singleton.2 rfl))
  -- both conversions start at the margin
  have hstart : KeepsUp config {} {} := ⟨rfl, ⟨rfl, rfl⟩, fun h => absurd h (Nat.lt_irrefl 0)⟩
  obtain ⟨b, again, hreads, hechoes, hstep⟩ := keepsUp_feeds hunit lines hstart hfeeds
  obtain ⟨c, more, hreads', hechoes'⟩ := keepsUp_finish hunit hstep hend
  rw [List.flatMap_append, List.flatMap_singleton]
  refine ⟨c, again ++ more, hreads.append hreads', ?_⟩
  rw [List.append_assoc]
  exact hechoes.append hechoes'

/-- **A second conversion.** Convert blank lines and plain statements, indented in any way, and then convert the output,
each line of which reads as what it is. The second conversion reaches its end too, with one new terminator before each
of the old ones, which are statements now, at the same depths in the same order, and with the same blank lines. But for
suppressed statements, it has as many lines more as there are terminators. -/
theorem second_pass {config : Config} (hfrozen : config.IsFrozen) {lines : List Text}
    (hlines : ∀ t ∈ history config lines, t.IsRereadable config) :
    let first := Conversion.ofLines config lines
    let second := Conversion.ofLines config (first.rendered config.layout)
    (first.fault = none ∧ second.fault = none) ∧
      second.lines.filter OutLine.isTerminator = first.lines.filter OutLine.isTerminator ∧
      second.lines.filter OutLine.isBlank = first.lines.filter OutLine.isBlank ∧
      Echoes first.lines second.lines ∧
      List.Forall₂ (fun line t => ReadAgain line t.event) first.lines
        (turns config {} ((first.rendered config.layout).map .feed)) ∧
      second.lines.length + (history config (first.rendered config.layout)).countP (fun t => t.event.isSuppressed) =
        first.lines.length + first.lines.countP OutLine.isTerminator ∧
      ((∀ line ∈ first.rendered config.layout, '\n' ∉ line) →
        Conversion.ofText config (first.text config.layout) = second) := by
  intro first second
  have hok : ∀ t ∈ history config lines, t.result.isOk = true :=
    fun t ht => (isOk_iff_of_mem ht).2 (Event.fault_of_isPlain (hlines t ht).plain)
  have hfault : first.fault = none := fault_eq_none_of_isOk hok
  obtain ⟨-, hfirst, -⟩ := run_of_fault_none hfault
  obtain ⟨c, again, hreads, hechoes⟩ := exists_rereads hfrozen.indentWidth_pos hlines
  have hout : (history config lines).flatMap Turn.out = first.lines := hfirst.symm
  rw [hout] at hreads hechoes
  obtain ⟨hfault', hsecond⟩ := hreads.ofLines
  rw [← hsecond] at hechoes
  have hfed : (first.rendered config.layout).map Call.feed = feeds config.layout first.lines := List.map_map
  have hcount := length_lines hfault'
  rw [List.length_map, hechoes.countP_isTerminator] at hcount
  exact ⟨⟨hfault, hfault'⟩, hechoes.filter_isTerminator, hechoes.filter_isBlank, hechoes, hfed ▸ hreads.each, hcount,
    Conversion.ofText_text⟩

/-- dedents of several units, to widths that are none, and past the margin; a keyword that saves a terminator, and blank
lines before a statement and at the end -/
theorem second_pass_unaligned :
    let config := Draft.standard.sanitize.complete
    let lines : List Text :=
      ["if a:", "", "      b", "         c = None", "    d", "  e", "else:", "   f(x)", "", "g", "        h", ""]
    let first := Conversion.ofLines config lines
    let second := Conversion.ofLines config (first.rendered config.layout)
    config.IsFrozen ∧ (∀ t ∈ history config lines, t.IsRereadable config) ∧
      first.lines.filter OutLine.isTerminator = [5, 1, 0, 0, 4, 0].map .terminator ∧
      second.lines.filter OutLine.isTerminator = first.lines.filter OutLine.isTerminator ∧
      Conversion.ofText config (first.text config.layout) = second := by
  intro config lines first second
  have hfrozen : config.IsFrozen := ⟨Draft.standard, Draft.freeze_eq (by decide +kernel)⟩
  have hlines : ∀ t ∈ history config lines, t.IsRereadable config := by decide +kernel
  have hdepths : first.lines.filter OutLine.isTerminator = [5, 1, 0, 0, 4, 0].map .terminator := by decide +kernel
  have hwhole : ∀ line ∈ first.rendered config.layout, '\n' ∉ line := by decide +kernel
  obtain ⟨-, hterminators, -, -, -, -, htext⟩ := second_pass hfrozen hlines
  exact ⟨hfrozen, hlines, hdepths, hterminators, htext hwhole⟩

end Linewise.Assembler
