/-
What a call on the assembler turns out to be.

A line is blank, belongs to a block string, continues the line before it, or is a fresh statement; what becomes of a
fresh statement is decided by the edits and the dispatch (`Fate`), everything else by the layout alone. `event` reads
this off the state and the line. `Event.out` and `Event.after` say field by field what comes out and what the state is
afterwards.

`call_eq`: a call does exactly what its event says. Later modules argue by cases on the event and never open `feed` or
`finish` again.
-/
import Linewise.Assembler
import Mathlib.Tactic.SplitIfs

namespace Linewise.Assembler

/-- a call: one more line, or the end of the input -/
inductive Call where
  | feed (line : Text)
  | finish
deriving DecidableEq, Repr, Inhabited

/-- make a call -/
def call (config : Config) (a : Assembler) : Call → Outcome
  | .feed line => a.feed config line
  | .finish => (.ok (a.finish config).1, (a.finish config).2)

/-- what a fresh statement says about the blocks around it -/
structure Heading where
  width : Nat
  /-- it begins with a keyword that continues the block before it -/
  continues : Bool
deriving DecidableEq, Repr, Inhabited

/-- what the edits and the dispatch make of a fresh statement -/
inductive Fate where
  | failed (fault : Pattern.Fault)
  /-- the edits left nothing of it, and no line continues it -/
  | emptied
  /-- its text as it is emitted, nothing if the dispatch leaves it out, and the scope after it -/
  | emitted (text : Option Text) (scope : Scope)
deriving DecidableEq, Repr, Inhabited

/-- what a call turns out to be -/
inductive Event where
  | blank
  /-- the first line of a block string -/
  | opening (string : BlockString) (text : Text) (closed : Bool)
  /-- a later line of a block string -/
  | inside (width : Nat) (text : Text) (closed : Bool)
  /-- a line that continues the one before it -/
  | interior (width : Nat) (text : Text) (continued : Bool)
  | fresh (heading : Heading) (continued : Bool) (fate : Fate)
  /-- the end of the input, in this mode -/
  | finish (mode : Mode)
deriving DecidableEq, Repr, Inhabited

/-! ## Reading the event off a call -/

/-- a line of a block string as it is emitted, and whether the string ends on it -/
def commentPiece (delimiter text : Text) : Text × Bool :=
  match Text.before? delimiter text with
  | some inside => (Text.trimRight inside, true)
  | none => (text, false)

/-- what becomes of the statement `source` -/
def fate (config : Config) (scope : Scope) (continued : Bool) (source : Text) : Fate :=
  match Edit.statement config.tables source with
  | .error fault => .failed fault
  | .ok edited =>
    if edited.isEmpty && !continued then .emptied
    else
      .emitted
        ((dispatch config.tables scope edited).text.map fun t =>
          if continued then t ++ config.layout.continuationMarker else t)
        (dispatch config.tables scope edited).scope

/-- what a line is, outside a block string -/
def plainEvent (config : Config) (a : Assembler) (line : Text) : Event :=
  let text := Indent.rest line
  let width := Indent.width (Indent.leading line)
  let continued := text.endsWith config.layout.continuationMarker
  if text.isEmpty then .blank
  else if a.context.mode = .inContinuation then .interior width text continued
  else
    match openingDelimiter? config.layout text with
    | some delimiter =>
      let piece := commentPiece delimiter (Text.trim (text.drop delimiter.length))
      .opening ⟨delimiter, width, a.context.lineNumber + 1⟩ piece.1 piece.2
    | none =>
      let source := statementText config.layout continued text
      .fresh ⟨width, isBlockContinuation config.layout.continuationKeywords source⟩ continued
        (fate config a.context.scope continued source)

/-- what a call is to the assembler it is made on -/
def event (config : Config) (a : Assembler) : Call → Event
  | .feed raw =>
    if a.context.mode = .inBlockComment then
      let piece := commentPiece a.blockString.delimiter (Text.trim raw.chomp)
      .inside a.blockString.width piece.1 piece.2
    else a.plainEvent config raw.chomp
  | .finish => .finish a.context.mode

namespace Event

/-! ## What an event does -/

/-- a statement that was neither emptied nor failed -/
def heading? : Event → Option Heading
  | .fresh heading _ (.emitted _ _) => some heading
  | _ => none

/-- why the call failed, if it did -/
def fault? : Event → Option Pattern.Fault
  | .fresh _ _ (.failed fault) => some fault
  | _ => none

/-- a line that leaves one more blank line owed: it is blank, or the edits left nothing of it -/
def owes : Event → Bool
  | .blank => true
  | .fresh _ _ .emptied => true
  | _ => false

/-- a call that releases the blank lines owed: a statement, or the end of the input -/
def releases : Event → Bool
  | .fresh _ _ (.emitted _ _) => true
  | .finish _ => true
  | _ => false

/-- the line of the output that an input line itself becomes -/
def own? : Event → Option OutLine
  | .opening string text _ => some (.comment string.width text)
  | .inside width text _ => some (.comment width text)
  | .interior width text _ => some (.interior width text)
  | .fresh heading _ (.emitted text _) => text.map (OutLine.statement heading.width)
  | _ => none

/-- the blocks that end and the blank lines that are released, with the margin at `m` -/
def released (unit : Nat) (m : Margin) : Event → List OutLine
  | .fresh heading _ (.emitted _ _) =>
    (closeBlocks unit heading.continues { m with current := heading.width, previous := m.current }).1
  | .finish _ => (closeBlocks unit false { m with current := 0 }).1
  | _ => []

/-- the lines that come out -/
def out (unit : Nat) (m : Margin) (e : Event) : List OutLine := e.released unit m ++ e.own?.toList

def modeAfter (mode : Mode) : Event → Mode
  | .opening _ _ closed => if closed then .normal else .inBlockComment
  | .inside _ _ closed => if closed then .normal else mode
  | .interior _ _ continued => if continued then .inContinuation else .normal
  | .fresh _ continued (.emitted _ _) => if continued then .inContinuation else .normal
  | .finish _ => .normal
  | _ => mode

def marginAfter (m : Margin) : Event → Margin
  | .blank => ⟨m.current, m.current, m.pendingBlanks + 1⟩
  | .opening _ _ _ => ⟨m.current, m.current, m.pendingBlanks⟩
  | .inside _ _ _ => m
  | .interior _ _ _ => ⟨m.current, m.current, m.pendingBlanks⟩
  | .fresh heading _ (.failed _) => ⟨heading.width, m.current, m.pendingBlanks⟩
  | .fresh _ _ .emptied => ⟨m.current, m.current, m.pendingBlanks + 1⟩
  | .fresh heading _ (.emitted _ _) => ⟨heading.width, heading.width, 0⟩
  | .finish _ => ⟨0, 0, 0⟩

def continuationAfter (before : Bool) : Event → Bool
  | .interior _ _ continued => continued
  | .fresh _ continued (.emitted _ _) => continued
  | .finish _ => false
  | _ => before

def scopeAfter (scope : Scope) : Event → Scope
  | .fresh _ _ (.emitted _ after) => after
  | _ => scope

def blockStringAfter (string : BlockString) : Event → BlockString
  | .opening opened _ _ => opened
  | _ => string

def isFinish : Event → Bool
  | .finish _ => true
  | _ => false

/-- the state after the event -/
def after (unit : Nat) (a : Assembler) (e : Event) : Assembler where
  context :=
    { mode := e.modeAfter a.context.mode
      margin := e.marginAfter a.context.margin
      inContinuation := e.continuationAfter a.context.inContinuation
      scope := e.scopeAfter a.context.scope
      lineNumber := if e.isFinish then a.context.lineNumber else a.context.lineNumber + 1
      linesEmitted := a.context.linesEmitted + (e.out unit a.context.margin).length
      warnings := if e.isFinish then a.context.warnings ++ a.unfinished else a.context.warnings }
  blockString := e.blockStringAfter a.blockString

/-- what the call gives, and the state after it -/
def outcome (unit : Nat) (a : Assembler) (e : Event) : Outcome :=
  (match e.fault? with
    | some fault => .error fault
    | none => .ok (e.out unit a.context.margin),
    e.after unit a)

/-- all that a call which does not fail does to a margin at rest: it rests again, at the width of the event's statement
if it has one -/
theorem marginAfter_eq {m : Margin} {e : Event} (hrest : m.previous = m.current) (hok : e.fault? = none) :
    e.marginAfter m =
      { current := if e.isFinish then 0 else (e.heading?.map Heading.width).getD m.current
        previous := if e.isFinish then 0 else (e.heading?.map Heading.width).getD m.current
        pendingBlanks := if e.releases then 0 else m.pendingBlanks + if e.owes then 1 else 0 } := by
  obtain ⟨current, previous, pendingBlanks⟩ := m
  cases hrest
  cases e with
  | fresh heading continued made =>
    cases made with
    | failed fault => cases hok
    | _ => rfl
  | _ => rfl

/-- the blank lines that are owed: one more, or none any longer, or as many as before -/
theorem pendingBlanks_marginAfter (m : Margin) (e : Event) :
    (e.marginAfter m).pendingBlanks =
      if e.releases then 0 else m.pendingBlanks + if e.owes then 1 else 0 := by
  cases e with
  | fresh heading continued made => cases made <;> rfl
  | _ => rfl

/-- nothing is released but by a statement or the end of the input -/
theorem released_of_releases_eq_false {unit : Nat} {m : Margin} {e : Event} (h : e.releases = false) :
    e.released unit m = [] := by
  cases e with
  | fresh heading continued made =>
    cases made with
    | emitted text scope => cases h
    | _ => rfl
  | finish mode => cases h
  | _ => rfl

/-- what releases the blank lines owed is a statement or the end of the input -/
theorem releases_eq (e : Event) : e.releases = (e.isFinish || e.heading?.isSome) := by
  cases e with
  | fresh heading continued made => cases made <;> rfl
  | _ => rfl

theorem eq_of_heading {e : Event} {heading : Heading} (h : e.heading? = some heading) :
    ∃ continued text scope, e = .fresh heading continued (.emitted text scope) := by
  cases e with
  | fresh heading' continued made =>
    cases made with
    | emitted text scope =>
      obtain rfl := Option.some.inj h
      exact ⟨continued, text, scope, rfl⟩
    | _ => cases h
  | _ => cases h

/-- when an event can occur -/
def Fits (layout : Layout) (a : Assembler) : Event → Prop
  | .blank => a.context.mode ≠ .inBlockComment
  | .opening string _ _ => a.context.mode = .normal ∧ string.delimiter ∈ layout.blockStringDelimiters
  | .inside _ _ _ => a.context.mode = .inBlockComment
  | .interior _ _ _ => a.context.mode = .inContinuation
  | .fresh _ _ _ => a.context.mode = .normal
  | .finish mode => a.context.mode = mode

end Event

/-! ## A call does what its event says -/

theorem commentLine_eq (a : Assembler) (text : Text) :
    a.commentLine text =
      { a with
        context :=
          { a.context with
            mode := if (commentPiece a.blockString.delimiter text).2 then .normal else a.context.mode } }.emit
        [.comment a.blockString.width (commentPiece a.blockString.delimiter text).1] := by
  rw [commentLine, commentPiece]
  cases Text.before? a.blockString.delimiter text <;> rfl

theorem statement_eq (config : Config) (a : Assembler) (continued : Bool) (text : Text) :
    a.statement config continued text =
      match fate config a.context.scope continued (statementText config.layout continued text) with
      | .failed fault => (.error fault, a)
      | .emptied => { a with context := { a.context with margin := countBlank a.context.margin } }.emit []
      | .emitted own scope =>
        { a with
          context :=
            { setContinuation a.context continued with
              margin := ⟨a.context.margin.current, a.context.margin.current, 0⟩, scope := scope } }.emit
          ((closeBlocks config.layout.indentWidth
              (isBlockContinuation config.layout.continuationKeywords (statementText config.layout continued text))
              a.context.margin).1 ++
            (own.map (OutLine.statement a.context.margin.current)).toList) := by
  rw [statement, fate]
  cases Edit.statement config.tables (statementText config.layout continued text) with
  | error fault => rfl
  | ok edited =>
    simp only
    split
    · rfl
    · cases (dispatch config.tables a.context.scope edited).text <;> rfl

theorem feed_inside (config : Config) (a : Assembler) (raw : Text) (h : a.context.mode = .inBlockComment) :
    a.feed config raw = (a.event config (.feed raw)).outcome config.layout.indentWidth a := by
  obtain ⟨⟨mode, margin, inContinuation, scope, lineNumber, linesEmitted, warnings⟩, string⟩ := a
  cases h
  simp only [feed, commentLine_eq]
  rfl

theorem feed_plain (config : Config) (a : Assembler) (raw : Text) (h : a.context.mode ≠ .inBlockComment) :
    a.feed config raw = (a.plainEvent config raw.chomp).outcome config.layout.indentWidth a := by
  obtain ⟨⟨mode, margin, inContinuation, scope, lineNumber, linesEmitted, warnings⟩, string⟩ := a
  simp only [feed, plainEvent, commentLine_eq, statement_eq]
  cases mode with
  | inBlockComment => exact absurd rfl h
  | inContinuation =>
    simp only [if_true]
    split <;> rfl
  | normal =>
    simp only [reduceCtorEq, if_false]
    split
    · rfl
    · cases openingDelimiter? config.layout (Indent.rest raw.chomp) with
      | some delimiter => rfl
      | none =>
        simp only
        generalize fate config scope ((Indent.rest raw.chomp).endsWith config.layout.continuationMarker)
          (statementText config.layout ((Indent.rest raw.chomp).endsWith config.layout.continuationMarker)
            (Indent.rest raw.chomp)) = made
        cases made <;> rfl

theorem finish_eq (config : Config) (a : Assembler) :
    a.call config .finish = (a.event config .finish).outcome config.layout.indentWidth a := by
  simp only [call, event, finish, Event.outcome, Event.fault?, Event.after, Event.out, Event.released, Event.own?,
    Option.toList_none, List.append_nil]
  rfl

/-- **A call does what its event says.** Every call, failed or not, is one of the events, and nothing else happens. -/
theorem call_eq (config : Config) (a : Assembler) (c : Call) :
    a.call config c = (a.event config c).outcome config.layout.indentWidth a := by
  cases c with
  | finish => exact finish_eq config a
  | feed raw =>
    by_cases hmode : a.context.mode = .inBlockComment
    · exact feed_inside config a raw hmode
    · rw [event, if_neg hmode]
      exact feed_plain config a raw hmode

theorem plainEvent_fits (config : Config) (a : Assembler) (line : Text) (h : a.context.mode ≠ .inBlockComment) :
    (a.plainEvent config line).Fits config.layout a := by
  simp only [plainEvent]
  split_ifs with hblank hmode
  · exact h
  · exact hmode
  · have hnormal : a.context.mode = .normal := by
      cases hm : a.context.mode with
      | normal => rfl
      | inBlockComment => exact absurd hm h
      | inContinuation => exact absurd hm hmode
    split
    · rename_i delimiter hopen
      exact ⟨hnormal, List.mem_of_find?_eq_some hopen⟩
    · exact hnormal

/-- each event occurs in its own mode, and a block string opens with one of the delimiters -/
theorem event_fits (config : Config) (a : Assembler) (c : Call) : (a.event config c).Fits config.layout a := by
  cases c with
  | finish => rfl
  | feed raw =>
    simp only [event]
    split_ifs with hmode
    · exact hmode
    · exact plainEvent_fits config a raw.chomp hmode

theorem event_feed_isFinish (config : Config) (a : Assembler) (line : Text) :
    (a.event config (.feed line)).isFinish = false := by
  simp only [event, plainEvent]
  split_ifs
  · rfl
  · rfl
  · rfl
  · split <;> rfl

end Linewise.Assembler
