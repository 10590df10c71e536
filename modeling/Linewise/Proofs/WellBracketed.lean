/-
Well-bracketed output.

A history is replayed with a stack of open blocks (`Replay`): a statement deeper than the one before it opens a block
there, and every terminator must end the innermost block. The replay knows nothing of the assembler but the lines that
came out and the widths of the statements. `WellNested` is what the input is asked for: widths are multiples of the
unit, no statement is more than one unit deeper than the one before it, and a keyword that continues a block from
further inside has a body.

`replay_wellNested`: the replay of a whole conversion never fails, after each statement exactly the blocks around it are
open, with one more at a keyword that continues a block from further inside, and in the end none is. The invariant is
`InStep`; what carries it through a statement is `closingDepths_append_enclosing`.
-/
import Linewise.Proofs.ClosingDepths
import Linewise.Proofs.Frozen
import Linewise.Proofs.History

namespace Linewise.Assembler

/-- a replay: the depths of the open blocks, innermost first, and the depth of the last statement -/
structure Replay where
  blocks : List Nat := []
  depth : Nat := 0
deriving DecidableEq, Repr, Inhabited

namespace Replay

/-- a terminator must find its depth innermost, and ends that block; no other line ends one -/
def close? (blocks : List Nat) : OutLine → Option (List Nat)
  | .terminator depth =>
    match blocks with
    | innermost :: outer => if innermost = depth then some outer else none
    | [] => none
  | _ => some blocks

/-- a statement deeper than the last one opens a block at the depth of the last one, unless that is open already -/
def enter (r : Replay) (width : Nat) : Replay where
  blocks := if r.depth < width ∧ r.blocks.head? ≠ some r.depth then r.depth :: r.blocks else r.blocks
  depth := width

/-- these blocks are left open, and then the statement comes, if there is one -/
def reach (r : Replay) (statement : Option Heading) (blocks : List Nat) : Replay :=
  match statement with
  | some heading => enter { r with blocks } heading.width
  | none => { r with blocks }

/-- the terminators that came out, then the statement -/
def turn? (r : Replay) (t : Turn) : Option Replay :=
  (t.out.foldlM close? r.blocks).map (r.reach t.event.heading?)

/-- a history from a replay on -/
def turns? (r : Replay) (ts : List Turn) : Option Replay := ts.foldlM turn? r

end Replay

/-- the statements after one of width `depth` are well nested -/
inductive WellNested (unit : Nat) : Nat → List Heading → Prop where
  | nil (depth : Nat) : WellNested unit depth []
  | cons {depth : Nat} {heading : Heading} {rest : List Heading} (hwidth : unit ∣ heading.width)
      (hle : heading.width ≤ depth + unit)
      (hbody : heading.continues = true → heading.width < depth →
        rest.head?.map Heading.width = some (heading.width + unit))
      (hrest : WellNested unit heading.width rest) : WellNested unit depth (heading :: rest)

theorem wellNested_cons {unit depth : Nat} {heading : Heading} {rest : List Heading} :
    WellNested unit depth (heading :: rest) ↔
      unit ∣ heading.width ∧ heading.width ≤ depth + unit ∧
        (heading.continues = true → heading.width < depth →
          rest.head?.map Heading.width = some (heading.width + unit)) ∧
        WellNested unit heading.width rest := by
  constructor
  · intro h
    cases h with
    | cons hwidth hle hbody hrest => exact ⟨hwidth, hle, hbody, hrest⟩
  · rintro ⟨hwidth, hle, hbody, hrest⟩
    exact .cons hwidth hle hbody hrest

/-- well-nestedness is decided statement by statement -/
instance WellNested.decidable (unit depth : Nat) :
    (headings : List Heading) → Decidable (WellNested unit depth headings)
  | [] => .isTrue (.nil depth)
  | heading :: rest =>
    have : Decidable (WellNested unit heading.width rest) := WellNested.decidable unit heading.width rest
    decidable_of_iff _ wellNested_cons.symm

/-- the blocks that are open after a statement, one of width `depth` being the last before it -/
def openAfter (unit depth : Nat) (heading : Heading) : List Nat :=
  (if heading.continues = true ∧ heading.width < depth then [heading.width] else []) ++ enclosing unit heading.width

/-- the replay is in step with the assembler, `ahead` being the statements to come -/
structure InStep (unit : Nat) (a : Assembler) (r : Replay) (ahead : List Heading) : Prop where
  current : a.context.margin.current = r.depth
  previous : a.context.margin.previous = r.depth
  dvd : unit ∣ r.depth
  nested : WellNested unit r.depth ahead
  /-- the block at the last statement itself is open only if its body is next -/
  blocks : r.blocks = enclosing unit r.depth ∨
    r.blocks = r.depth :: enclosing unit r.depth ∧ ahead.head?.map Heading.width = some (r.depth + unit)

/-! ## Lines and blocks -/

namespace Replay

/-- terminators at the depths of the innermost blocks end just these -/
theorem close_terminators (depths blocks : List Nat) (lines : List OutLine) :
    (depths.map OutLine.terminator ++ lines).foldlM close? (depths ++ blocks) = lines.foldlM close? blocks := by
  induction depths with
  | nil => rfl
  | cons depth depths ih =>
    simp only [List.map_cons, List.cons_append, List.foldlM_cons, close?, if_true]
    exact ih

theorem close_blanks (n width : Nat) (blocks : List Nat) (lines : List OutLine) :
    (List.replicate n (OutLine.blank width) ++ lines).foldlM close? blocks = lines.foldlM close? blocks := by
  induction n with
  | zero => rfl
  | succ n ih => exact ih

/-- a line that an input line itself becomes ends no block -/
theorem close_own (e : Event) (blocks : List Nat) : e.own?.toList.foldlM close? blocks = some blocks := by
  cases e with
  | fresh heading continued made =>
    cases made with
    | emitted text scope => cases text <;> rfl
    | _ => rfl
  | _ => rfl

/-- the lines of a call that releases some end the blocks whose depths close -/
theorem close_released (unit : Nat) (continues : Bool) (m : Margin) (blocks : List Nat) (own : List OutLine)
    (hown : own.foldlM close? blocks = some blocks) :
    ((closeBlocks unit continues m).1 ++ own).foldlM close?
        (closingDepths unit m.current continues m.previous m.previous ++ blocks) =
      some blocks := by
  rw [closeBlocks, List.append_assoc, close_terminators, close_blanks, hown]

end Replay

/-! ## One more turn -/

/-- a deeper statement finds the block at the last one open, or opens it -/
theorem blocks_of_deeper {unit : Nat} (hunit : 0 < unit) {r : Replay} {width : Nat} (hdeeper : r.depth < width)
    (hblocks : r.blocks = enclosing unit r.depth ∨ r.blocks = r.depth :: enclosing unit r.depth) :
    (r.enter width).blocks = r.depth :: enclosing unit r.depth := by
  rw [Replay.enter]
  rcases hblocks with hblocks | hblocks
  · have hhead : r.blocks.head? ≠ some r.depth := by
      intro h
      rw [hblocks] at h
      exact absurd (lt_of_head_enclosing hunit h) (Nat.lt_irrefl _)
    rw [if_pos ⟨hdeeper, hhead⟩, hblocks]
  · have hhead : r.blocks.head? = some r.depth := by rw [hblocks]; rfl
    rw [if_neg fun h => h.2 hhead, hblocks]

/-- before a statement of well-nested input the blocks that close are the innermost open ones; once they have ended and
the statement has come, the blocks that are open after it are open -/
theorem blocks_of_statement {unit : Nat} (hunit : 0 < unit) {r : Replay} {heading : Heading} {rest : List Heading}
    (hdvd : unit ∣ r.depth) (hnested : WellNested unit r.depth (heading :: rest))
    (hblocks : r.blocks = enclosing unit r.depth ∨
      r.blocks = r.depth :: enclosing unit r.depth ∧ heading.width = r.depth + unit) :
    ∃ kept, r.blocks = closingDepths unit heading.width heading.continues r.depth r.depth ++ kept ∧
      (Replay.enter { r with blocks := kept } heading.width).blocks = openAfter unit r.depth heading := by
  obtain ⟨hwidth, hle, -, -⟩ := wellNested_cons.1 hnested
  by_cases hdeeper : r.depth < heading.width
  · have heq : heading.width = r.depth + unit := Nat.le_antisymm hle (add_le_of_lt_of_dvd hdvd hwidth hdeeper)
    have hback : ¬(heading.continues = true ∧ heading.width < r.depth) := by
      rintro ⟨-, h⟩
      exact Nat.lt_asymm h hdeeper
    refine ⟨r.blocks, ?_, ?_⟩
    · rw [closingDepths_of_le _ _ (Nat.le_of_lt hdeeper), List.nil_append]
    · rw [openAfter, if_neg hback, List.nil_append, heq, enclosing_add hunit hdvd, ← heq]
      exact blocks_of_deeper hunit hdeeper (hblocks.imp_right And.left)
  · -- no statement less deep can follow a block that waits for its body
    have hblocks : r.blocks = enclosing unit r.depth := by
      rcases hblocks with hblocks | ⟨-, heq⟩
      · exact hblocks
      · omega
    refine ⟨openAfter unit r.depth heading, ?_, ?_⟩
    · rw [hblocks, openAfter]
      exact (closingDepths_append_enclosing _ hunit hwidth hdvd (Nat.le_of_not_lt hdeeper) (Nat.le_refl _)).symm
    · rw [Replay.enter, if_neg fun h => hdeeper h.1]

/-- a statement that follows in well-nested input: its blocks end, and the replay stays in step -/
theorem inStep_statement {unit : Nat} (hunit : 0 < unit) {a : Assembler} {r : Replay} {heading : Heading}
    {continued : Bool} {text : Option Text} {scope : Scope} {ahead : List Heading}
    (h : InStep unit a r (heading :: ahead)) :
    ∃ kept,
      ((Event.fresh heading continued (.emitted text scope)).out unit a.context.margin).foldlM Replay.close? r.blocks =
          some kept ∧
        InStep unit ((Event.fresh heading continued (.emitted text scope)).after unit a)
          (Replay.enter { r with blocks := kept } heading.width) ahead ∧
        (Replay.enter { r with blocks := kept } heading.width).blocks = openAfter unit r.depth heading := by
  obtain ⟨hwidth, -, hbody, hrest⟩ := wellNested_cons.1 h.nested
  obtain ⟨kept, hkept, hopen⟩ := blocks_of_statement hunit h.dvd h.nested
    (h.blocks.imp_right fun hb => ⟨hb.1, Option.some.inj hb.2⟩)
  refine ⟨kept, ?_, ⟨rfl, rfl, hwidth, hrest, ?_⟩, hopen⟩
  · have hreleased := Replay.close_released unit heading.continues
      { a.context.margin with current := heading.width, previous := a.context.margin.current } kept
      _ (Replay.close_own (.fresh heading continued (.emitted text scope)) kept)
    rw [hkept, ← h.current]
    exact hreleased
  · rw [hopen, openAfter]
    by_cases hresumes : heading.continues = true ∧ heading.width < r.depth
    · rw [if_pos hresumes]
      exact Or.inr ⟨rfl, hbody hresumes.1 hresumes.2⟩
    · rw [if_neg hresumes]
      exact Or.inl rfl

/-- a line that is no statement leaves the replay as it is, and in step -/
theorem inStep_other {unit : Nat} {a : Assembler} {r : Replay} {e : Event} {ahead : List Heading}
    (hfinish : e.isFinish = false) (hheading : e.heading? = none) (hfault : e.fault? = none)
    (h : InStep unit a r ahead) :
    (e.out unit a.context.margin).foldlM Replay.close? r.blocks = some r.blocks ∧
      InStep unit (e.after unit a) r ahead := by
  have hreleases : e.releases = false := by rw [Event.releases_eq, hfinish, hheading]; rfl
  have hmargin : (e.after unit a).context.margin = e.marginAfter a.context.margin := rfl
  rw [Event.marginAfter_eq (h.previous.trans h.current.symm) hfault, hfinish, hheading] at hmargin
  refine ⟨?_, ?_, ?_, h.dvd, h.nested, h.blocks⟩
  · rw [Event.out, Event.released_of_releases_eq_false hreleases]
    exact Replay.close_own e r.blocks
  · rw [hmargin]
    exact h.current
  · rw [hmargin]
    exact h.current

/-- the end of the input ends all the blocks that are open -/
theorem close_finish {unit : Nat} (hunit : 0 < unit) {a : Assembler} {r : Replay} {mode : Mode}
    (h : InStep unit a r []) :
    ((Event.finish mode).out unit a.context.margin).foldlM Replay.close? r.blocks = some [] := by
  have hblocks : r.blocks = enclosing unit r.depth := by
    rcases h.blocks with hblocks | ⟨-, hnext⟩
    · exact hblocks
    · cases hnext
  have hclosing := closingDepths_append_enclosing false hunit (Nat.dvd_zero unit) h.dvd (Nat.zero_le _) (Nat.le_refl _)
  rw [enclosing_zero, ← hblocks] at hclosing
  rw [← hclosing, ← h.previous]
  exact Replay.close_released unit false { a.context.margin with current := 0 } [] [] rfl

/-- the replay of a turn, in terms of its event -/
theorem Replay.turn_eq (config : Config) (a : Assembler) (c : Call) (r : Replay) :
    r.turn? (a.turn config c) =
      (((a.event config c).out config.layout.indentWidth a.context.margin).foldlM close? r.blocks).map
        (r.reach (a.event config c).heading?) := by
  rw [turn?, turn_out]
  rfl

/-- **One more line.** The replay of a line that does not fail does not fail either, and stays in step; if the line is a
statement, the blocks that are open after it are open. -/
theorem inStep_turn {config : Config} (hunit : 0 < config.layout.indentWidth) {a : Assembler} {r : Replay} {line : Text}
    {ahead : List Heading} (hok : (a.turn config (.feed line)).result.isOk = true)
    (h : InStep config.layout.indentWidth a r ((a.event config (.feed line)).heading?.toList ++ ahead)) :
    ∃ r', r.turn? (a.turn config (.feed line)) = some r' ∧
      InStep config.layout.indentWidth (a.turn config (.feed line)).after r' ahead ∧
      ∀ heading, (a.event config (.feed line)).heading? = some heading →
        r'.depth = heading.width ∧ r'.blocks = openAfter config.layout.indentWidth r.depth heading := by
  have hfault := turn_isOk_iff.1 hok
  have hfinish : (a.event config (.feed line)).isFinish = false := event_feed_isFinish config a line
  rw [Replay.turn_eq, turn_after]
  generalize a.event config (.feed line) = e at *
  cases hheading : e.heading? with
  | none =>
    rw [hheading] at h
    obtain ⟨hlines, hstep⟩ := inStep_other hfinish hheading hfault h
    exact ⟨r, by rw [hlines]; rfl, hstep, fun heading h => by cases h⟩
  | some heading =>
    rw [hheading] at h
    obtain ⟨continued, text, scope, rfl⟩ := Event.eq_of_heading hheading
    obtain ⟨kept, hlines, hstep, hopen⟩ := inStep_statement hunit h
    refine ⟨_, by rw [hlines]; rfl, hstep, fun heading' h' => ?_⟩
    obtain rfl := Option.some.inj h'
    exact ⟨rfl, hopen⟩

/-! ## Whole conversions -/

/-- the width of the last statement, 0 if there is none -/
def lastWidth (ts : List Turn) : Nat := ((headings ts).getLast?.map Heading.width).getD 0

/-- the replay of lines that do not fail does not fail, and stays in step -/
theorem inStep_lines {config : Config} (hunit : 0 < config.layout.indentWidth) {a : Assembler} {r : Replay}
    {later : List Heading} (lines : List Text) (hok : ∀ t ∈ a.turns config (lines.map .feed), t.result.isOk = true)
    (h : InStep config.layout.indentWidth a r (headings (a.turns config (lines.map .feed)) ++ later)) :
    ∃ r', r.turns? (a.turns config (lines.map .feed)) = some r' ∧
      InStep config.layout.indentWidth (a.stateAfter config (lines.map .feed)) r' later := by
  induction lines generalizing a r with
  | nil => exact ⟨r, rfl, h⟩
  | cons line rest ih =>
    rw [List.map_cons, turns, headings_cons, List.append_assoc] at h
    obtain ⟨s, hturn, hstep, -⟩ := inStep_turn hunit (hok _ List.mem_cons_self) h
    have hlater : ∀ t ∈ (a.turn config (.feed line)).after.turns config (rest.map .feed), t.result.isOk = true := by
      intro t ht
      exact hok t (List.mem_cons_of_mem _ ht)
    obtain ⟨r', hrest, hfinal⟩ := ih hlater hstep
    refine ⟨r', ?_, hfinal⟩
    rw [List.map_cons, turns, Replay.turns?, List.foldlM_cons, hturn]
    exact hrest

/-- a replay stands at the width of the last statement -/
theorem Replay.depth_turns {r r' : Replay} {ts : List Turn} (h : r.turns? ts = some r') :
    r'.depth = ((headings ts).getLast?.map Heading.width).getD r.depth := by
  induction ts generalizing r with
  | nil => cases h; rfl
  | cons t ts ih =>
    rw [turns?, List.foldlM_cons] at h
    obtain ⟨s, hturn, hrest⟩ := Option.bind_eq_some_iff.1 h
    obtain ⟨blocks, -, rfl⟩ := Option.map_eq_some_iff.1 hturn
    rw [ih hrest, headings_cons, List.getLast?_append]
    cases (headings ts).getLast? with
    | some last => rfl
    | none => cases t.event.heading? <;> rfl

/-- the start of a well-nested conversion -/
theorem inStep_start {config : Config} {lines : List Text}
    (hnested : WellNested config.layout.indentWidth 0 (headings (history config lines))) :
    InStep config.layout.indentWidth {} {} (headings (history config lines)) :=
  ⟨rfl, rfl, Nat.dvd_zero _, hnested, Or.inl (enclosing_zero _).symm⟩

/-- the replay of a whole conversion does not fail and leaves no block open -/
theorem exists_replay {config : Config} (hunit : 0 < config.layout.indentWidth) {lines : List Text}
    (hok : ∀ t ∈ history config lines, t.result.isOk = true)
    (hnested : WellNested config.layout.indentWidth 0 (headings (history config lines))) :
    ∃ final, Replay.turns? {} (history config lines) = some final ∧ final.blocks = [] := by
  have hstart := inStep_start hnested
  have hhistory : history config lines =
      turns config {} (lines.map .feed) ++ [(stateAfter config {} (lines.map .feed)).turn config .finish] :=
    turns_append config {} (lines.map .feed) [.finish]
  rw [hhistory] at hok ⊢
  rw [hhistory, headings, List.filterMap_append] at hstart
  have hfed : ∀ t ∈ turns config {} (lines.map .feed), t.result.isOk = true := by
    intro t ht
    exact hok t (List.mem_append_left _ ht)
  obtain ⟨r, hlines, hend⟩ := inStep_lines hunit lines hfed hstart
  refine ⟨r.reach none [], ?_, rfl⟩
  rw [Replay.turns?] at hlines
  rw [Replay.turns?, List.foldlM_append, hlines]
  show (r.turn? _ >>= pure) = _
  rw [bind_pure, Replay.turn_eq, event, close_finish hunit hend]
  rfl

/-- the replay up to a statement of a conversion, and of the statement: the blocks around it are open -/
theorem exists_replay_statement {config : Config} (hunit : 0 < config.layout.indentWidth) {lines : List Text}
    (hok : ∀ t ∈ history config lines, t.result.isOk = true)
    (hnested : WellNested config.layout.indentWidth 0 (headings (history config lines)))
    {past rest : List Turn} {t : Turn} {heading : Heading} (hsplit : history config lines = past ++ t :: rest)
    (hheading : t.event.heading? = some heading) :
    ∃ before here, Replay.turns? {} past = some before ∧ before.turn? t = some here ∧
      here.blocks = openAfter config.layout.indentWidth (lastWidth past) heading := by
  have hstart := inStep_start hnested
  have hline : t.event.isFinish = false := by
    obtain ⟨continued, text, scope, he⟩ := Event.eq_of_heading hheading
    rw [he]
    rfl
  rw [hsplit, headings, List.filterMap_append] at hstart
  rw [hsplit] at hok
  obtain ⟨before, line, rfl, rfl⟩ := split_wholeInput hsplit hline
  have hbefore : ∀ t ∈ turns config {} (before.map .feed), t.result.isOk = true := by
    intro t ht
    exact hok t (List.mem_append_left _ ht)
  have hturn : ((stateAfter config {} (before.map .feed)).turn config (.feed line)).result.isOk = true :=
    hok _ (List.mem_append_right _ List.mem_cons_self)
  obtain ⟨r, hpast, hstep⟩ := inStep_lines hunit before hbefore hstart
  rw [← headings, headings_cons] at hstep
  obtain ⟨r', hlast, -, hopen⟩ := inStep_turn hunit hturn hstep
  refine ⟨r, r', hpast, hlast, ?_⟩
  rw [(hopen heading hheading).2, Replay.depth_turns hpast]
  rfl

/-- **Well-bracketed output.** Convert any well-nested input to its end. The replay of the conversion never fails; after
each statement exactly the blocks around it are open, and the one at its own depth as well if it continues that from
further inside; and after the end of the input no block is open. -/
theorem replay_wellNested {config : Config} (hfrozen : config.IsFrozen) {lines : List Text}
    (hrun : (Conversion.ofLines config lines).fault = none)
    (hnested : WellNested config.layout.indentWidth 0 (headings (history config lines))) :
    (∃ final, Replay.turns? {} (history config lines) = some final ∧ final.blocks = []) ∧
      ∀ past t rest heading, history config lines = past ++ t :: rest → t.event.heading? = some heading →
        ∃ before here, Replay.turns? {} past = some before ∧ before.turn? t = some here ∧
          here.blocks = openAfter config.layout.indentWidth (lastWidth past) heading := by
  have hunit := hfrozen.indentWidth_pos
  obtain ⟨hok, -, -⟩ := run_of_fault_none hrun
  refine ⟨exists_replay hunit hok hnested, ?_⟩
  intro past t rest heading hsplit hheading
  exact exists_replay_statement hunit hok hnested hsplit hheading

/-- a branch with two arms, a decorator, a block string and a continued statement inside -/
theorem replay_two_arms :
    let config := Config.replacing "pass" ""
    let lines : List Text :=
      ["if a:", "    @staticmethod", "    '''text", "  of a string'''", "    def f():", "        b = \\", "c",
        "        pass", "else:", "", "    d"]
    config.IsFrozen ∧ (Conversion.ofLines config lines).fault = none ∧
      WellNested config.layout.indentWidth 0 (headings (history config lines)) ∧
      ∃ final, Replay.turns? {} (history config lines) = some final ∧ final.blocks = [] := by
  intro config lines
  have hfrozen : config.IsFrozen := Config.replacing_isFrozen (by decide +kernel)
  have hrun : (Conversion.ofLines config lines).fault = none := by decide +kernel
  have hnested : WellNested config.layout.indentWidth 0 (headings (history config lines)) := by decide +kernel
  exact ⟨hfrozen, hrun, hnested, (replay_wellNested hfrozen hrun hnested).1⟩

end Linewise.Assembler
