/-
Block strings: from the line that opens one to the line that closes it.

The first delimiter that the opener begins with, in the order of the layout, is the only one that counts. Each line up
to the first one that holds it again comes out as one comment, the last of them cut before the delimiter, and nothing in
them has any other effect (`block_string_lines`). The calls before the opener may be any, failed ones too. A failed
statement leaves the margin moved (`settled_of_isOk`), and an opener right after it does not put it back:
`block_string_after_failure`.
-/
import Linewise.Proofs.Transparent
import Linewise.Proofs.Trimming

namespace Linewise

/-! ## The first occurrence of a delimiter -/

namespace Text

/-- `x` stands before the first occurrence of `d` in the text -/
def StandsBefore (d t x : Text) : Prop :=
  (∃ rest, t = x ++ (d ++ rest)) ∧ ∀ y rest, t = y ++ (d ++ rest) → x.length ≤ y.length

theorem before?_eq_none_iff {d t : Text} : before? d t = none ↔ ¬ d <:+: t := by
  induction t with
  | nil =>
    rw [before?, List.infix_nil]
    cases d with
    | nil => exact iff_of_false (by rintro ⟨⟩) fun h => h rfl
    | cons c d => exact iff_of_true rfl (List.cons_ne_nil c d)
  | cons c rest ih =>
    rw [before?, List.infix_cons_iff, startsWith]
    split
    · rename_i hstart
      exact iff_of_false (by rintro ⟨⟩) fun h => h (.inl (List.isPrefixOf_iff_prefix.1 hstart))
    · rename_i hstart
      rw [List.isPrefixOf_iff_prefix] at hstart
      rw [Option.map_eq_none_iff, ih, not_or]
      exact (and_iff_right hstart).symm

theorem standsBefore_of_before? {d t x : Text} (h : before? d t = some x) : StandsBefore d t x := by
  induction t generalizing x with
  | nil =>
    rw [before?] at h
    split at h
    · rename_i hempty
      obtain rfl := List.isEmpty_iff.1 hempty
      obtain rfl := Option.some.inj h
      exact ⟨⟨[], rfl⟩, fun y rest _ => Nat.zero_le _⟩
    · cases h
  | cons c rest ih =>
    rw [before?, startsWith] at h
    split at h
    · rename_i hstart
      obtain rfl := Option.some.inj h
      obtain ⟨tail, htail⟩ := List.isPrefixOf_iff_prefix.1 hstart
      exact ⟨⟨tail, htail.symm⟩, fun y rest _ => Nat.zero_le _⟩
    · rename_i hstart
      obtain ⟨x, hx, rfl⟩ := Option.map_eq_some_iff.1 h
      obtain ⟨⟨tail, rfl⟩, hfirst⟩ := ih hx
      refine ⟨⟨tail, rfl⟩, fun y later hcut => ?_⟩
      cases y with
      | nil => exact absurd (List.isPrefixOf_iff_prefix.2 ⟨later, hcut.symm⟩) hstart
      | cons e y => exact Nat.succ_le_succ (hfirst y later (List.cons.inj hcut).2)

/-- there is one first occurrence -/
theorem StandsBefore.unique {d t x y : Text} (hx : StandsBefore d t x) (hy : StandsBefore d t y) : x = y := by
  obtain ⟨⟨rest, hcut⟩, hfirst⟩ := hx
  obtain ⟨⟨rest', hcut'⟩, hfirst'⟩ := hy
  exact (List.append_inj (hcut.symm.trans hcut') (Nat.le_antisymm (hfirst y rest' hcut') (hfirst' x rest hcut))).1

theorem before?_eq_some_iff {d t x : Text} : before? d t = some x ↔ StandsBefore d t x := by
  refine ⟨standsBefore_of_before?, fun h => ?_⟩
  cases hbefore : before? d t with
  | none =>
    obtain ⟨⟨rest, rfl⟩, -⟩ := h
    exact absurd ⟨x, rest, List.append_assoc x d rest⟩ (before?_eq_none_iff.1 hbefore)
  | some y => rw [(standsBefore_of_before? hbefore).unique h]

end Text

namespace Assembler

/-- how a line of a block string is shown, and whether the string ends on it -/
inductive Shown (d t : Text) : Text → Bool → Prop
  | whole (h : ¬ d <:+: t) : Shown d t t false
  | cut {x : Text} (h : Text.StandsBefore d t x) : Shown d t x true

theorem commentPiece_of_notInfix {d t : Text} (h : ¬ d <:+: t) : commentPiece d t = (t, false) := by
  rw [commentPiece, Text.before?_eq_none_iff.2 h]

theorem closed_commentPiece {d t x : Text} {closed : Bool} (h : Shown d t x closed) :
    (commentPiece d t).2 = closed := by
  cases h with
  | whole h => rw [commentPiece_of_notInfix h]
  | cut h => rw [commentPiece, Text.before?_eq_some_iff.2 h]

/-- a line of a block string of this width, as it is written -/
def commented (layout : Layout) (width : Nat) (text : Text) : Text :=
  Text.trimRight (Text.spaces width ++ layout.commentPrefix ++ [' '] ++ text)

theorem render_commentPiece (layout : Layout) (width : Nat) {d t x : Text} {closed : Bool} (h : Shown d t x closed) :
    (OutLine.comment width (commentPiece d t).1).render layout = commented layout width x := by
  cases h with
  | whole h => rw [commentPiece_of_notInfix h, OutLine.render, commented]
  | cut h =>
    rw [commentPiece, Text.before?_eq_some_iff.2 h, OutLine.render, commented]
    exact Text.trimRight_append_trimRight _ x

/-! ## The lines of a block string -/

/-- the assembler `n` lines into a block string that began in the context `c` -/
def within (c : Context) (string : BlockString) (n : Nat) (mode : Mode) : Assembler where
  context :=
    { c with
      mode := mode
      margin := { c.margin with previous := c.margin.current }
      lineNumber := c.lineNumber + n
      linesEmitted := c.linesEmitted + n }
  blockString := string

/-- what a call gave, as it is written, and the mode after it -/
def Turn.written (layout : Layout) (t : Turn) : Except Pattern.Fault (List Text) × Mode :=
  (t.result.map (List.map (OutLine.render layout)), t.after.context.mode)

/-- the mode after a line of a block string -/
def modeAfterLine (closed : Bool) : Mode := if closed then .normal else .inBlockComment

section

variable (config : Config) (c : Context) (string : BlockString)

/-- a line of an open block string is a comment, and leaves everything else as it was -/
theorem turn_within (n : Nat) {line x : Text} {closed : Bool}
    (h : Shown string.delimiter (Text.trim line.chomp) x closed) :
    ((within c string n .inBlockComment).turn config (.feed line)).written config.layout =
        (.ok [commented config.layout string.width x], modeAfterLine closed) ∧
      ((within c string n .inBlockComment).turn config (.feed line)).after =
        within c string (n + 1) (modeAfterLine closed) := by
  have hevent : (within c string n .inBlockComment).event config (.feed line) =
      .inside string.width (commentPiece string.delimiter (Text.trim line.chomp)).1 closed := by
    rw [← closed_commentPiece h]
    rfl
  have hafter : ((within c string n .inBlockComment).turn config (.feed line)).after =
      within c string (n + 1) (modeAfterLine closed) := by
    rw [turn_after, hevent]
    rfl
  refine ⟨?_, hafter⟩
  rw [Turn.written, hafter, turn, call_eq, hevent, ← render_commentPiece config.layout string.width h]
  rfl

/-- lines without the delimiter -/
theorem turns_within (n : Nat) (lines : List Text)
    (h : ∀ t ∈ lines.map fun line => Text.trim line.chomp, ¬ string.delimiter <:+: t) :
    ((within c string n .inBlockComment).turns config (lines.map .feed)).map (Turn.written config.layout) =
        (lines.map fun line => Text.trim line.chomp).map
          (fun t => (.ok [commented config.layout string.width t], .inBlockComment)) ∧
      (within c string n .inBlockComment).stateAfter config (lines.map .feed) =
        within c string (n + lines.length) .inBlockComment := by
  induction lines generalizing n with
  | nil => exact ⟨rfl, rfl⟩
  | cons line rest ih =>
    obtain ⟨hline, hrest⟩ := List.forall_mem_cons.1 h
    obtain ⟨hwritten, hafter⟩ := turn_within config c string n (.whole hline)
    obtain ⟨hturns, hstate⟩ := ih (n + 1) hrest
    constructor
    · rw [List.map_cons, turns, List.map_cons, hwritten, hafter]
      exact congrArg _ hturns
    · show Assembler.stateAfter config ((within c string n .inBlockComment).turn config (.feed line)).after _ = _
      rw [hafter, List.length_cons, Nat.add_comm rest.length, ← Nat.add_assoc]
      exact hstate

variable {c string}

/-- the line that opens a block string is its first comment -/
theorem turn_opener {a : Assembler} {opener d x : Text} {closed : Bool} (hmode : a.context.mode = .normal)
    (hnonblank : Indent.rest opener.chomp ≠ [])
    (hopen : openingDelimiter? config.layout (Indent.rest opener.chomp) = some d)
    (h : Shown d (Text.trim ((Indent.rest opener.chomp).drop d.length)) x closed) :
    let string : BlockString := ⟨d, Indent.width (Indent.leading opener.chomp), a.context.lineNumber + 1⟩
    (a.turn config (.feed opener)).written config.layout =
        (.ok [commented config.layout string.width x], modeAfterLine closed) ∧
      (a.turn config (.feed opener)).after = within a.context string 1 (modeAfterLine closed) := by
  intro string
  have hevent := event_of_opener hmode hnonblank hopen
  rw [closed_commentPiece h] at hevent
  have hafter : (a.turn config (.feed opener)).after = within a.context string 1 (modeAfterLine closed) := by
    rw [turn_after, hevent]
    rfl
  refine ⟨?_, hafter⟩
  rw [Turn.written, hafter, turn, call_eq, hevent, ← render_commentPiece config.layout string.width h]
  rfl

end

/-! ## Whole block strings -/

theorem blockContents_concat (d opener : Text) (inner : List Text) (last : Text) :
    blockContents d (opener :: (inner ++ [last])) =
      Text.trim ((Indent.rest opener.chomp).drop d.length) :: inner.map (fun line => Text.trim line.chomp) ++
        [Text.trim last.chomp] := by
  rw [blockContents, List.map_append]
  rfl

/-- all the lines, the last of which may close the string -/
theorem turns_block_string (config : Config) {a : Assembler} {opener d b x : Text} {more bs : List Text} {closed : Bool}
    (hmode : a.context.mode = .normal) (hnonblank : Indent.rest opener.chomp ≠ [])
    (hopen : openingDelimiter? config.layout (Indent.rest opener.chomp) = some d)
    (hcontents : blockContents d (opener :: more) = bs ++ [b]) (hbefore : ∀ t ∈ bs, ¬ d <:+: t)
    (hlast : Shown d b x closed) :
    let string : BlockString := ⟨d, Indent.width (Indent.leading opener.chomp), a.context.lineNumber + 1⟩
    (a.turns config ((opener :: more).map .feed)).map (Turn.written config.layout) =
        bs.map (fun t => (.ok [commented config.layout string.width t], .inBlockComment)) ++
          [(.ok [commented config.layout string.width x], modeAfterLine closed)] ∧
      a.stateAfter config ((opener :: more).map .feed) =
        within a.context string (more.length + 1) (modeAfterLine closed) := by
  intro string
  rcases List.eq_nil_or_concat more with rfl | ⟨inner, last, rfl⟩
  · obtain ⟨rfl, hb⟩ := List.append_inj' (show [] ++ [_] = bs ++ [b] from hcontents) rfl
    obtain rfl := (List.cons.inj hb).1
    obtain ⟨hwritten, hafter⟩ := turn_opener config hmode hnonblank hopen hlast
    exact ⟨congrArg (fun t => [t]) hwritten, hafter⟩
  · rw [List.concat_eq_append] at hcontents ⊢
    rw [blockContents_concat] at hcontents
    obtain ⟨rfl, hb⟩ := List.append_inj' hcontents rfl
    obtain rfl := (List.cons.inj hb).1
    obtain ⟨hfirst, hinner⟩ := List.forall_mem_cons.1 hbefore
    -- the opener, the lines without the delimiter, and the last line
    obtain ⟨hwritten, hafter⟩ := turn_opener config hmode hnonblank hopen (.whole hfirst)
    have hopened : (a.turn config (.feed opener)).after = within a.context string 1 .inBlockComment := hafter
    obtain ⟨hturns, hstate⟩ := turns_within config a.context string 1 inner hinner
    obtain ⟨hend, hdone⟩ := turn_within config a.context string (1 + inner.length) hlast
    constructor
    · rw [List.map_cons, List.map_append, turns, hopened, turns_append, hstate, List.map_cons, List.map_append, hwritten,
        hturns]
      exact congrArg (fun t => _ :: (_ ++ [t])) hend
    · show Assembler.stateAfter config (a.turn config (.feed opener)).after _ = _
      rw [hopened, List.map_append, stateAfter_append, hstate]
      show ((within _ _ (1 + inner.length) .inBlockComment).turn config (.feed last)).after = _
      rw [hdone, List.length_append, List.length_singleton, Nat.add_comm 1]

/-! ## The margin before the opener -/

/-- a call that does not fail leaves the margin at rest, and so does one that leaves a block string open -/
theorem settled_turn {config : Config} {a : Assembler} {c : Call}
    (h : a.context.mode = .inBlockComment → a.context.margin.previous = a.context.margin.current)
    (hafter : (a.turn config c).result.isOk = true ∨ (a.turn config c).after.context.mode = .inBlockComment) :
    (a.turn config c).after.context.margin.previous = (a.turn config c).after.context.margin.current := by
  have hfits := event_fits config a c
  rw [turn_isOk_iff, turn_after] at hafter
  rw [turn_after]
  generalize a.event config c = e at hfits hafter
  cases e with
  | inside width text closed => exact h hfits
  | fresh heading continued made =>
    cases made with
    | failed fault =>
      -- a statement is met in the normal mode, and a failed one stays in it
      rcases hafter with hok | hopen
      · cases hok
      · have hnormal : a.context.mode = .normal := hfits
        have hopen : a.context.mode = .inBlockComment := hopen
        rw [hnormal] at hopen
        cases hopen
    | emptied => rfl
    | emitted text scope => rfl
  | _ => rfl

theorem settled_of_open (config : Config) (calls : List Call)
    (hopen : (stateAfter config {} calls).context.mode = .inBlockComment) :
    (stateAfter config {} calls).context.margin.previous = (stateAfter config {} calls).context.margin.current := by
  induction calls using List.reverseRecOn with
  | nil => rfl
  | append_singleton calls c ih =>
    rw [stateAfter_append] at hopen ⊢
    exact settled_turn ih (.inr hopen)

/-- the margin is at rest unless the last call failed -/
theorem settled_of_isOk (config : Config) (calls : List Call)
    (hok : ∀ t ∈ (turns config {} calls).getLast?, t.result.isOk = true) :
    (stateAfter config {} calls).context.margin.previous = (stateAfter config {} calls).context.margin.current := by
  rcases List.eq_nil_or_concat calls with rfl | ⟨calls, c, rfl⟩
  · rfl
  · rw [List.concat_eq_append] at hok ⊢
    rw [stateAfter_append]
    refine settled_turn (settled_of_open config calls) (.inl (hok _ ?_))
    rw [turns_append]
    exact List.getLast?_concat

/-! ## Block strings of a conversion -/

/-- **The lines of a block string.** Let a line of the normal mode begin with a delimiter, the first such one of the
layout, and let the string that it opens go on for some lines, of which only the last may hold the delimiter again. Then
each line comes out as one comment, the last one cut before the delimiter, and the string is open until then. Afterwards
the context is the one before the opener but for the counts of lines and the mode, and for a margin that a failed
statement right before the opener has left moved. If the string is still open, the end of the input gives one warning
about it, with the line of the opener. -/
theorem block_string_lines (config : Config) (calls : List Call) {opener d b x : Text}
    {earlier later more bs : List Text} {closed : Bool} (hmode : (stateAfter config {} calls).context.mode = .normal)
    (hnonblank : Indent.rest opener.chomp ≠ []) (hdelimiters : config.layout.blockStringDelimiters = earlier ++ d :: later)
    (hstarts : d <+: Indent.rest opener.chomp) (hearlier : ∀ e ∈ earlier, ¬ e <+: Indent.rest opener.chomp)
    (hcontents : Text.trim ((Indent.rest opener.chomp).drop d.length) :: more.map Text.trim = bs ++ [b])
    (hbefore : ∀ t ∈ bs, ¬ d <:+: t) (hlast : Shown d b x closed) :
    let a := stateAfter config {} calls
    let z := a.stateAfter config ((opener :: more).map .feed)
    let shown := commented config.layout (Indent.width (Indent.leading opener.chomp))
    (a.turns config ((opener :: more).map .feed)).map (Turn.written config.layout) =
        bs.map (fun t => (.ok [shown t], .inBlockComment)) ++ [(.ok [shown x], if closed then .normal else .inBlockComment)] ∧
      z.context =
        { a.context with
          mode := if closed then .normal else .inBlockComment
          margin := { a.context.margin with previous := a.context.margin.current }
          lineNumber := a.context.lineNumber + (more.length + 1)
          linesEmitted := a.context.linesEmitted + (more.length + 1) } ∧
      ((∀ t ∈ (turns config {} calls).getLast?, t.result.isOk = true) → z.context.margin = a.context.margin) ∧
      (closed = false → (z.finish config).2.context.warnings =
        a.context.warnings ++
          [⟨"Unterminated block string (missing " ++ d ++ ")", some (a.context.lineNumber + 1)⟩]) := by
  intro a z shown
  have hopen : openingDelimiter? config.layout (Indent.rest opener.chomp) = some d := by
    rw [openingDelimiter?, hdelimiters, List.find?_eq_some_iff_append]
    refine ⟨List.isPrefixOf_iff_prefix.2 hstarts, earlier, later, rfl, fun e he => ?_⟩
    rw [Text.startsWith, Bool.not_eq_true', Bool.eq_false_iff, ne_eq, List.isPrefixOf_iff_prefix]
    exact hearlier e he
  have hblock : blockContents d (opener :: more) = bs ++ [b] := by
    simp only [blockContents, Text.trim_chomp]
    exact hcontents
  obtain ⟨hturns, hafter⟩ := turns_block_string config hmode hnonblank hopen hblock hbefore hlast
  have hz : z = within a.context ⟨d, Indent.width (Indent.leading opener.chomp), a.context.lineNumber + 1⟩
      (more.length + 1) (modeAfterLine closed) := hafter
  refine ⟨hturns, ?_, fun hok => ?_, ?_⟩
  · rw [hz]
    rfl
  · have hsettled : a.context.margin.previous = a.context.margin.current := settled_of_isOk config calls hok
    rw [hz, within, ← hsettled]
  · rintro rfl
    rw [hz]
    rfl

/-- another delimiter, a marker, a blank line and a keyword within a block string -/
theorem block_string_around_other_lines :
    let config := Config.replacing "pass" "nil"
    let calls : List Call := [.feed "def f(x):", .feed ""]
    let opener : Text := "  \"\"\"a ''' \\"
    let more : List Text := ["", "if x:", "b \"\"\" + c"]
    ((stateAfter config {} calls).turns config ((opener :: more).map .feed)).map (Turn.written config.layout) =
        [(.ok ["  # a ''' \\".toList], .inBlockComment), (.ok ["  #".toList], .inBlockComment),
          (.ok ["  # if x:".toList], .inBlockComment), (.ok ["  # b".toList], .normal)] ∧
      ((stateAfter config {} calls).stateAfter config ((opener :: more).map .feed)).context.margin =
        (stateAfter config {} calls).context.margin := by
  intro config calls opener more
  have hmode : (stateAfter config {} calls).context.mode = .normal := by decide +kernel
  have hdelimiters : config.layout.blockStringDelimiters = ["'''".toList] ++ "\"\"\"".toList :: [] := by decide +kernel
  have hcontents : Text.trim ((Indent.rest opener.chomp).drop "\"\"\"".toList.length) :: more.map Text.trim =
      ["a ''' \\".toList, "".toList, "if x:".toList] ++ ["b \"\"\" + c".toList] := by
    decide +kernel
  have hbefore : ∀ t ∈ ["a ''' \\".toList, "".toList, "if x:".toList], ¬ "\"\"\"".toList <:+: t := by
    intro t ht
    refine Text.before?_eq_none_iff.1 ?_
    revert t
    decide +kernel
  have hlast : Shown "\"\"\"" "b \"\"\" + c" "b " true := .cut (Text.before?_eq_some_iff.1 (by decide +kernel))
  have hlines := block_string_lines config calls hmode (by decide +kernel) hdelimiters (by decide +kernel)
    (by decide +kernel) hcontents hbefore hlast
  exact ⟨hlines.1.trans (by decide +kernel), hlines.2.2.1 (by decide +kernel)⟩

/-- an opener after a statement that failed: the indentation of that statement becomes the previous one -/
theorem block_string_after_failure :
    let config := Config.replacing "(?i)nil" "null"
    let a := stateAfter config {} [.feed "    x = 1"]
    let z := a.stateAfter config [.feed "'''doc'''"]
    config.IsFrozen ∧ a.context.mode = .normal ∧ z.context.mode = .normal ∧
      a.context.margin.previous = 0 ∧ z.context.margin.previous = 4 := by
  intro config a z
  exact ⟨Config.replacing_isFrozen (by decide +kernel), by decide +kernel, by decide +kernel, by decide +kernel,
    by decide +kernel⟩

end Assembler

end Linewise
