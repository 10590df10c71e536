/-
Lines that leave nothing behind but their own output.

A complete block string, a blank line and a line in the middle of a continuation all move the margin and put it back.
`Transparent` says which lines these are, what they come out as, and how many blank lines they leave owed. After them
the assembler is the one before them, only delayed (`delayed_of_transparent`).

`transparent_lines`: with such lines put in, a conversion gives what it gives without them, and their own output.
-/
import Linewise.Proofs.ContextInvariant
import Linewise.Proofs.Delayed

namespace Linewise.Assembler

/-! ## Which lines these are -/

/-- what stands in a block string, line by line: the first line begins with the delimiter -/
def blockContents (delimiter : Text) : List Text → List Text
  | [] => []
  | opener :: more =>
    Text.trim ((Indent.rest opener.chomp).drop delimiter.length) :: more.map fun line => Text.trim line.chomp

/-- the delimiter stands in the last of the contents, and in no other -/
def closesAtLast (delimiter : Text) : List Text → Bool
  | [] => false
  | [text] => (commentPiece delimiter text).2
  | text :: rest => !(commentPiece delimiter text).2 && closesAtLast delimiter rest

/-- lines met in a mode, what they come out as, and how many blank lines they leave owed -/
inductive Transparent (layout : Layout) : Mode → List Text → List OutLine → Nat → Prop where
  /-- an opener, up to the first line that closes the block string -/
  | blockString (delimiter : Text) {opener : Text} {more : List Text} (hnonblank : Indent.rest opener.chomp ≠ [])
      (hopen : openingDelimiter? layout (Indent.rest opener.chomp) = some delimiter)
      (hclose : closesAtLast delimiter (blockContents delimiter (opener :: more)) = true) :
      Transparent layout .normal (opener :: more)
        ((blockContents delimiter (opener :: more)).map fun text =>
          .comment (Indent.width (Indent.leading opener.chomp)) (commentPiece delimiter text).1) 0
  | blank {mode : Mode} {line : Text} (hmode : mode ≠ .inBlockComment) (hblank : Indent.rest line.chomp = []) :
      Transparent layout mode [line] [] 1
  /-- a line of a continuation that is continued itself -/
  | interior {line : Text} (hnonblank : Indent.rest line.chomp ≠ [])
      (hcontinued : (Indent.rest line.chomp).endsWith layout.continuationMarker = true) :
      Transparent layout .inContinuation [line]
        [.interior (Indent.width (Indent.leading line.chomp)) (Indent.rest line.chomp)] 0

/-! ## Lines that leave nothing behind -/

/-- the assembler in another mode -/
def withMode (a : Assembler) (mode : Mode) : Assembler := { a with context := { a.context with mode } }

theorem withMode_of_eq {a : Assembler} {mode : Mode} (h : a.context.mode = mode) : a.withMode mode = a := by
  obtain ⟨⟨_, margin, continued, scope, lineNumber, linesEmitted, warnings⟩, string⟩ := a
  cases h
  rfl

/-- no line is at hand and nothing was warned about yet -/
structure AtRest (a : Assembler) : Prop where
  margin : a.context.margin.previous = a.context.margin.current
  warnings : a.context.warnings = []

/-- a blank line, a line of a block string, or a line of a continuation that is continued itself -/
def Event.passes : Event → Bool
  | .blank => true
  | .opening _ _ _ => true
  | .inside _ _ _ => true
  | .interior _ _ continued => continued
  | _ => false

section Lines

variable {config : Config} {a : Assembler}

/-- after such a line the context is as before it, but for the mode -/
theorem delayed_of_passes {c : Call} (hrest : a.AtRest) (hpasses : (a.event config c).passes = true)
    (hcontinuation : (a.event config c).continuationAfter a.context.inContinuation = a.context.inContinuation)
    (mode : Mode) (hmode : mode ≠ .inBlockComment) :
    (a.turn config c).after.AtRest ∧
      Delayed 1 (if (a.event config c).owes then 1 else 0) ((a.turn config c).after.withMode mode) (a.withMode mode) := by
  rw [turn_after]
  generalize a.event config c = e at hpasses hcontinuation
  obtain ⟨⟨_, ⟨current, previous, pendingBlanks⟩, continued, scope, lineNumber, linesEmitted, warnings⟩, string⟩ := a
  obtain ⟨hmargin, hwarnings⟩ := hrest
  cases hmargin
  cases hwarnings
  cases e with
  | fresh heading continued made => cases hpasses
  | finish mode => cases hpasses
  | _ => exact ⟨⟨rfl, rfl⟩, rfl, rfl, hcontinuation, rfl, rfl, rfl, fun h => absurd h hmode⟩

/-- the line is one of a block string: it comes out as a comment and leaves the string open, unless the delimiter stands
in it -/
structure IsComment (config : Config) (a : Assembler) (line delimiter : Text) (width : Nat) (text : Text) : Prop where
  passes : (a.event config (.feed line)).passes = true
  continuation : (a.event config (.feed line)).continuationAfter a.context.inContinuation = a.context.inContinuation
  owes : (a.event config (.feed line)).owes = false
  out : (a.turn config (.feed line)).out = [.comment width (commentPiece delimiter text).1]
  mode : (a.turn config (.feed line)).after.context.mode =
    if (commentPiece delimiter text).2 then .normal else .inBlockComment

/-- the lines come out as comments and leave nothing behind -/
structure AreComments (config : Config) (a : Assembler) (lines : List Text) (delimiter : Text) (width : Nat)
    (texts : List Text) : Prop where
  delayed : Delayed lines.length 0 (a.stateAfter config (lines.map .feed)) (a.withMode .normal)
  out : (a.turns config (lines.map .feed)).flatMap Turn.out =
    texts.map fun text => .comment width (commentPiece delimiter text).1

/-- the lines from `line` on are comments, if it is one and those after it are -/
theorem areComments_cons {line : Text} {rest : List Text} {delimiter text : Text} {width : Nat} (hrest : a.AtRest)
    (hline : IsComment config a line delimiter width text)
    (hclose : closesAtLast delimiter (text :: rest.map fun line => Text.trim line.chomp) = true)
    (hmore : (a.turn config (.feed line)).after.AtRest →
      (a.turn config (.feed line)).after.context.mode = .inBlockComment →
      closesAtLast delimiter (rest.map fun line => Text.trim line.chomp) = true →
      AreComments config (a.turn config (.feed line)).after rest delimiter width
        (rest.map fun line => Text.trim line.chomp)) :
    AreComments config a (line :: rest) delimiter width (text :: rest.map fun line => Text.trim line.chomp) := by
  obtain ⟨hrest', hdelayed⟩ := delayed_of_passes hrest hline.passes hline.continuation .normal (by decide)
  have hmode := hline.mode
  rw [hline.owes] at hdelayed
  cases rest with
  | nil =>
    have hclosed : (commentPiece delimiter text).2 = true := hclose
    rw [hclosed, if_pos rfl] at hmode
    rw [withMode_of_eq hmode] at hdelayed
    refine ⟨hdelayed, ?_⟩
    rw [List.map_cons, turns, List.flatMap_cons, hline.out]
    rfl
  | cons next more =>
    obtain ⟨hnot, hlater⟩ := Bool.and_eq_true_iff.1 hclose
    rw [Bool.not_eq_true'] at hnot
    rw [hnot] at hmode
    obtain ⟨hdelayed', hout'⟩ := hmore hrest' hmode hlater
    refine ⟨hdelayed'.trans hdelayed, ?_⟩
    rw [List.map_cons, turns, List.flatMap_cons, hline.out, hout']
    rfl

/-- the lines of an open block string up to the one that closes it -/
theorem areComments_of_open (config : Config) (lines : List Text) (hrest : a.AtRest)
    (hopen : a.context.mode = .inBlockComment)
    (hclose : closesAtLast a.blockString.delimiter (lines.map fun line => Text.trim line.chomp) = true) :
    AreComments config a lines a.blockString.delimiter a.blockString.width
      (lines.map fun line => Text.trim line.chomp) := by
  induction lines generalizing a with
  | nil => cases hclose
  | cons line rest ih =>
    have hevent : a.event config (.feed line) = .inside a.blockString.width
        (commentPiece a.blockString.delimiter (Text.trim line.chomp)).1
        (commentPiece a.blockString.delimiter (Text.trim line.chomp)).2 := by
      rw [event, if_pos hopen]
    have hafter := turn_after config a (.feed line)
    rw [hevent] at hafter
    have hline : IsComment config a line a.blockString.delimiter a.blockString.width (Text.trim line.chomp) :=
      { passes := by rw [hevent]; rfl
        continuation := by rw [hevent]; rfl
        owes := by rw [hevent]; rfl
        out := by rw [turn_out, hevent]; rfl
        mode := by rw [hafter, ← hopen]; rfl }
    refine areComments_cons hrest hline hclose fun hrest' hopen' hclose' => ?_
    have hstring : (a.turn config (.feed line)).after.blockString = a.blockString := by rw [hafter]; rfl
    rw [← hstring] at hclose' ⊢
    exact ih hrest' hopen' hclose'

/-- the event of a line that is neither blank nor inside a block string nor of a continuation, if it begins with a
delimiter -/
theorem event_of_opener {line delimiter : Text} (hmode : a.context.mode = .normal)
    (hnonblank : Indent.rest line.chomp ≠ [])
    (hopen : openingDelimiter? config.layout (Indent.rest line.chomp) = some delimiter) :
    a.event config (.feed line) =
      .opening ⟨delimiter, Indent.width (Indent.leading line.chomp), a.context.lineNumber + 1⟩
        (commentPiece delimiter (Text.trim ((Indent.rest line.chomp).drop delimiter.length))).1
        (commentPiece delimiter (Text.trim ((Indent.rest line.chomp).drop delimiter.length))).2 := by
  have hempty : (Indent.rest line.chomp).isEmpty = false := by simpa using hnonblank
  simp [event, plainEvent, hmode, hempty, hopen]

/-- **Nothing is left behind.** After transparent lines, at rest, the assembler is the one before them some lines later,
and these came out as they should. -/
theorem delayed_of_transparent {lines : List Text} {own : List OutLine} {k : Nat} (hrest : a.AtRest)
    (hcontinuation : a.context.inContinuation = true ↔ a.context.mode = .inContinuation)
    (h : Transparent config.layout a.context.mode lines own k) :
    Delayed lines.length k (a.stateAfter config (lines.map .feed)) a ∧
      (a.turns config (lines.map .feed)).flatMap Turn.out = own := by
  generalize hmode : a.context.mode = mode at h
  cases h with
  | @blockString delimiter opener more hnonblank hopen hclose =>
    have hevent := event_of_opener hmode hnonblank hopen
    have hafter := turn_after config a (.feed opener)
    rw [hevent] at hafter
    have hstring : (a.turn config (.feed opener)).after.blockString =
        ⟨delimiter, Indent.width (Indent.leading opener.chomp), a.context.lineNumber + 1⟩ := by rw [hafter]; rfl
    have hopener : IsComment config a opener delimiter (Indent.width (Indent.leading opener.chomp))
        (Text.trim ((Indent.rest opener.chomp).drop delimiter.length)) :=
      { passes := by rw [hevent]; rfl
        continuation := by rw [hevent]; rfl
        owes := by rw [hevent]; rfl
        out := by rw [turn_out, hevent]; rfl
        mode := by rw [hafter]; rfl }
    obtain ⟨hdelayed, hout⟩ := areComments_cons hrest hopener hclose fun hrest' hopen' hclose' => by
      have hinside := areComments_of_open config more hrest' hopen' (by rw [hstring]; exact hclose')
      rwa [hstring] at hinside
    rw [withMode_of_eq hmode] at hdelayed
    exact ⟨hdelayed, hout⟩
  | @blank _ line hblock hblank =>
    have hevent : a.event config (.feed line) = .blank := by
      rw [← hmode] at hblock
      simp [event, plainEvent, hblock, hblank]
    obtain ⟨-, hdelayed⟩ := delayed_of_passes hrest (by rw [hevent]; rfl) (by rw [hevent]; rfl) mode hblock
    have hsame : (a.turn config (.feed line)).after.context.mode = mode := by
      rw [turn_after, hevent]
      exact hmode
    rw [withMode_of_eq hsame, withMode_of_eq hmode, hevent] at hdelayed
    refine ⟨hdelayed, ?_⟩
    rw [List.map_singleton, turns, List.flatMap_cons, turn_out, hevent]
    rfl
  | @interior line hnonblank hcontinued =>
    have hempty : (Indent.rest line.chomp).isEmpty = false := by simpa using hnonblank
    have hevent : a.event config (.feed line) =
        .interior (Indent.width (Indent.leading line.chomp)) (Indent.rest line.chomp) true := by
      simp [event, plainEvent, hmode, hempty, hcontinued]
    have hup : a.context.inContinuation = true := hcontinuation.2 hmode
    obtain ⟨-, hdelayed⟩ := delayed_of_passes hrest (by rw [hevent]; rfl) (by rw [hevent, hup]; rfl) .inContinuation
      (by decide)
    have hsame : (a.turn config (.feed line)).after.context.mode = .inContinuation := by
      rw [turn_after, hevent]
      rfl
    rw [withMode_of_eq hsame, withMode_of_eq hmode, hevent] at hdelayed
    refine ⟨hdelayed, ?_⟩
    rw [List.map_singleton, turns, List.flatMap_cons, turn_out, hevent]
    rfl

end Lines

/-! ## Whole conversions -/

theorem isUntimely_of_feeds {config : Config} {a : Assembler} {lines : List Text} {t : Turn}
    (ht : t ∈ a.turns config (lines.map .feed)) : t.event.isUntimely = false := by
  induction lines generalizing a with
  | nil => cases ht
  | cons line rest ih =>
    rcases List.mem_cons.1 ht with rfl | ht
    · have hfinish := event_feed_isFinish config a line
      rw [← turn_event] at hfinish
      generalize (a.turn config (.feed line)).event = e at hfinish
      cases e <;> first | rfl | cases hfinish
    · exact ih ht

/-- after lines none of which failed the assembler is at rest -/
theorem atRest_of_isOk {config : Config} (hfrozen : config.IsFrozen) (lines : List Text)
    (hok : ∀ t ∈ turns config {} (lines.map .feed), t.result.isOk = true) :
    (stateAfter config {} (lines.map .feed)).AtRest ∧
      ((stateAfter config {} (lines.map .feed)).context.inContinuation = true ↔
        (stateAfter config {} (lines.map .feed)).context.mode = .inContinuation) := by
  have hstart : Reflects config.layout [] {} := ⟨rfl, rfl, rfl, by decide, rfl, rfl, rfl, fun h => by cases h⟩
  have h := turns_inv (reflects_step hfrozen) (lines.map .feed) hstart hok
  rw [List.nil_append] at h
  refine ⟨⟨h.previous.trans h.current.symm, ?_⟩, h.inContinuation⟩
  rw [← List.length_eq_zero_iff, h.warnings, List.countP_eq_zero]
  intro t ht
  simp [isUntimely_of_feeds ht]

theorem delayed_stateAfter (config : Config) {n k : Nat} {a b : Assembler} (h : Delayed n k a b) (calls : List Call) :
    ∃ k', Delayed n k' (a.stateAfter config calls) (b.stateAfter config calls) := by
  induction calls generalizing a b k with
  | nil => exact ⟨k, h⟩
  | cons c rest ih => exact ih (delayed_step config h c).2

theorem wholeInput_append (p q : List Text) : wholeInput (p ++ q) = p.map .feed ++ wholeInput q := by
  rw [wholeInput, wholeInput, List.map_append, List.append_assoc]

/-- the conversions with some lines put in and without them differ in nothing else -/
structure SameBesides (config : Config) (before lines after : List Text) (own : List OutLine) (k : Nat) : Prop where
  /-- the lines put in come out in their place -/
  with_lines : (Conversion.ofLines config (before ++ lines ++ after)).lines =
    (turns config {} (before.map .feed)).flatMap Turn.out ++ own ++
      (turns config (stateAfter config {} ((before ++ lines).map .feed)) (wholeInput after)).flatMap Turn.out
  without_lines : (Conversion.ofLines config (before ++ after)).lines =
    (turns config {} (before.map .feed)).flatMap Turn.out ++
      (turns config (stateAfter config {} (before.map .feed)) (wholeInput after)).flatMap Turn.out
  /-- all later calls turn out the same and give the same, up to `k` blank lines that come out more -/
  later : SameTurns lines.length k
    (turns config (stateAfter config {} ((before ++ lines).map .feed)) (wholeInput after))
    (turns config (stateAfter config {} (before.map .feed)) (wholeInput after))
  scope : (Conversion.ofLines config (before ++ lines ++ after)).final.context.scope =
    (Conversion.ofLines config (before ++ after)).final.context.scope
  /-- the warnings are about lines that stand later -/
  warnings : (Conversion.ofLines config (before ++ lines ++ after)).final.context.warnings =
    (Conversion.ofLines config (before ++ after)).final.context.warnings.map (Warning.laterBy lines.length)

/-- **Transparent lines.** Put a complete block string, a blank line or a line of a continuation that is continued
itself into an input, where it is met as such, and let neither conversion fail. Then the lines put in come out as they
should, and everything else is as it is without them. -/
theorem transparent_lines {config : Config} (hfrozen : config.IsFrozen) {before lines after : List Text}
    {own : List OutLine} {k : Nat}
    (htransparent : Transparent config.layout (stateAfter config {} (before.map .feed)).context.mode lines own k)
    (hwith : (Conversion.ofLines config (before ++ lines ++ after)).fault = none)
    (hwithout : (Conversion.ofLines config (before ++ after)).fault = none) :
    SameBesides config before lines after own k := by
  obtain ⟨hok, hlines, hfinal⟩ := run_of_fault_none hwith
  obtain ⟨-, hlines', hfinal'⟩ := run_of_fault_none hwithout
  rw [wholeInput_append, List.map_append, turns_append, turns_append] at hlines
  rw [wholeInput_append, List.map_append, turns_append, turns_append] at hok
  rw [wholeInput_append, stateAfter_append] at hfinal
  rw [wholeInput_append, turns_append] at hlines'
  rw [wholeInput_append, stateAfter_append] at hfinal'
  obtain ⟨hrest, hcontinuation⟩ := atRest_of_isOk hfrozen before fun t ht =>
    hok t (List.mem_append_left _ (List.mem_append_left _ ht))
  obtain ⟨hdelayed, hown⟩ := delayed_of_transparent hrest hcontinuation htransparent
  rw [← stateAfter_append, ← List.map_append] at hdelayed
  obtain ⟨k', hend⟩ := delayed_stateAfter config hdelayed (wholeInput after)
  refine ⟨?_, ?_, sameTurns_of_delayed config hdelayed _, ?_, ?_⟩
  · rw [Conversion.ofLines, hlines, List.flatMap_append, List.flatMap_append, hown, List.map_append]
  · rw [Conversion.ofLines, hlines', List.flatMap_append]
  · rw [Conversion.ofLines, Conversion.ofLines, hfinal, hfinal']
    exact hend.scope
  · rw [Conversion.ofLines, Conversion.ofLines, hfinal, hfinal']
    exact hend.warnings

/-- a block string with another delimiter in it, a blank line between two blocks, a blank line and a continued one within
a continuation that the input ends in -/
theorem transparent_in_four_places :
    let config := Config.replacing "pass" "nil"
    let block : List Text := ["if a:", "    pass"]
    let started : List Text := ["def f(x):", "    y = x + \\"]
    SameBesides config block ["  '''one", "\"\"\" two", "three''' + 1"] ["b()"]
        [.comment 2 "one", .comment 2 "\"\"\" two", .comment 2 "three"] 0 ∧
      SameBesides config block [" "] ["", "b()"] [] 1 ∧
      SameBesides config started [""] ["  2"] [] 1 ∧
      SameBesides config started ["  z + \\"] ["", "  2 + \\"] [.interior 2 "z + \\"] 0 := by
  intro config block started
  have hfrozen : config.IsFrozen := Config.replacing_isFrozen (by decide +kernel)
  have hmode : (stateAfter config {} (block.map .feed)).context.mode = .normal := by decide +kernel
  have hmode' : (stateAfter config {} (started.map .feed)).context.mode = .inContinuation := by decide +kernel
  refine ⟨?_, ?_, ?_, ?_⟩
  · refine transparent_lines hfrozen ?_ (by decide +kernel) (by decide +kernel)
    rw [hmode]
    exact .blockString "'''" (by decide +kernel) (by decide +kernel) (by decide +kernel)
  · refine transparent_lines hfrozen ?_ (by decide +kernel) (by decide +kernel)
    rw [hmode]
    exact .blank (by decide) (by decide +kernel)
  · refine transparent_lines hfrozen ?_ (by decide +kernel) (by decide +kernel)
    rw [hmode']
    exact .blank (by decide) (by decide +kernel)
  · refine transparent_lines hfrozen ?_ (by decide +kernel) (by decide +kernel)
    rw [hmode']
    exact .interior (by decide +kernel) (by decide +kernel)

end Linewise.Assembler
