/-
Two assemblers at different lines of the same text.

The first has read more lines than the second and may owe more blank lines; everything else that a later call looks at
is the same (`Delayed`). That is kept by every call (`delayed_step`), so all later calls turn out the same and give the
same lines (`sameTurns_of_delayed`): only the blank lines that the first owes more come out more, where blank lines are
released next, and what is warned about stands at a later line. What a closed block string left behind is no difference:
nobody looks at it before the next one opens.
-/
import Linewise.Proofs.Accounting

namespace Linewise

/-- the warning about a line that stands `n` lines later -/
def Warning.laterBy (n : Nat) (w : Warning) : Warning := { w with line := w.line.map (· + n) }

namespace Assembler

/-- the event `n` lines later -/
def Event.laterBy (n : Nat) : Event → Event
  | .opening string text closed => .opening { string with startLine := string.startLine + n } text closed
  | e => e

/-- the first assembler has read `n` lines more and owes `k` blank lines more, and later calls see no other
difference -/
structure Delayed (n k : Nat) (a b : Assembler) : Prop where
  mode : a.context.mode = b.context.mode
  margin : a.context.margin = { b.context.margin with pendingBlanks := b.context.margin.pendingBlanks + k }
  inContinuation : a.context.inContinuation = b.context.inContinuation
  scope : a.context.scope = b.context.scope
  lineNumber : a.context.lineNumber = b.context.lineNumber + n
  warnings : a.context.warnings = b.context.warnings.map (Warning.laterBy n)
  /-- what the last block string left behind does not matter -/
  blockString : b.context.mode = .inBlockComment →
    a.blockString = { b.blockString with startLine := b.blockString.startLine + n }

/-- the same turn `n` lines later, apart from what came out -/
structure SameTurn (n : Nat) (t u : Turn) : Prop where
  event : t.event = u.event.laterBy n
  isOk : t.result.isOk = u.result.isOk
  mode : t.after.context.mode = u.after.context.mode
  inContinuation : t.after.context.inContinuation = u.after.context.inContinuation
  scope : t.after.context.scope = u.after.context.scope
  warnings : t.after.context.warnings = u.after.context.warnings.map (Warning.laterBy n)

/-- the same turns `n` lines later: they give the same lines, only that the first one to release blank lines has `k` more
of them after its terminators -/
inductive SameTurns (n : Nat) : Nat → List Turn → List Turn → Prop where
  | nil {k : Nat} : SameTurns n k [] []
  | kept {k : Nat} {t u : Turn} {ts us : List Turn} (hsame : SameTurn n t u) (hkept : u.event.releases = false)
      (hout : t.out = u.out) (hrest : SameTurns n k ts us) : SameTurns n k (t :: ts) (u :: us)
  | released {k width : Nat} {t u : Turn} {ts us : List Turn} {terminators more : List OutLine}
      (hsame : SameTurn n t u) (hreleased : u.event.releases = true)
      (hterminators : terminators.all OutLine.isTerminator = true) (hmore : more.any OutLine.isTerminator = false)
      (hout : t.out = terminators ++ List.replicate k (.blank width) ++ more) (hout' : u.out = terminators ++ more)
      (hrest : SameTurns n 0 ts us) : SameTurns n k (t :: ts) (u :: us)

namespace Event

variable {n : Nat} (e : Event)

@[simp] theorem releases_laterBy : (e.laterBy n).releases = e.releases := by cases e <;> rfl

@[simp] theorem isFinish_laterBy : (e.laterBy n).isFinish = e.isFinish := by cases e <;> rfl

@[simp] theorem fault?_laterBy : (e.laterBy n).fault? = e.fault? := by cases e <;> rfl

@[simp] theorem own?_laterBy : (e.laterBy n).own? = e.own? := by cases e <;> rfl

@[simp] theorem heading?_laterBy : (e.laterBy n).heading? = e.heading? := by cases e <;> rfl

@[simp] theorem modeAfter_laterBy (mode : Mode) : (e.laterBy n).modeAfter mode = e.modeAfter mode := by cases e <;> rfl

@[simp] theorem continuationAfter_laterBy (before : Bool) :
    (e.laterBy n).continuationAfter before = e.continuationAfter before := by cases e <;> rfl

@[simp] theorem scopeAfter_laterBy (scope : Scope) : (e.laterBy n).scopeAfter scope = e.scopeAfter scope := by
  cases e <;> rfl

/-- the blank lines that were owed before and are not released are owed afterwards -/
theorem marginAfter_laterBy (m : Margin) (k : Nat) :
    (e.laterBy n).marginAfter { m with pendingBlanks := m.pendingBlanks + k } =
      { e.marginAfter m with pendingBlanks := (e.marginAfter m).pendingBlanks + if e.releases then 0 else k } := by
  cases e with
  | fresh heading continued made => cases made <;> simp [laterBy, marginAfter, releases]; omega
  | blank => simp [laterBy, marginAfter, releases]; omega
  | _ => simp [laterBy, marginAfter, releases]

/-- a call that releases nothing gives what it gives with other blank lines owed -/
theorem out_laterBy_of_kept (unit k : Nat) (m : Margin) (h : e.releases = false) :
    (e.laterBy n).out unit { m with pendingBlanks := m.pendingBlanks + k } = e.out unit m := by
  rw [out, out, released_of_releases_eq_false (by simpa using h), released_of_releases_eq_false h, own?_laterBy]

/-- more blank lines owed are more blank lines released, after the terminators -/
theorem closeBlocks_add (unit k : Nat) (continues : Bool) (m : Margin) :
    ∃ terminators blanks : List OutLine, terminators.all OutLine.isTerminator = true ∧
      blanks.any OutLine.isTerminator = false ∧ (closeBlocks unit continues m).1 = terminators ++ blanks ∧
      (closeBlocks unit continues { m with pendingBlanks := m.pendingBlanks + k }).1 =
        terminators ++ List.replicate k (.blank m.current) ++ blanks := by
  refine ⟨(closingDepths unit m.current continues m.previous m.previous).map .terminator,
    List.replicate m.pendingBlanks (.blank m.current), ?_, ?_, rfl, ?_⟩
  · simp [OutLine.isTerminator]
  · simp [OutLine.isTerminator]
  · simp only [closeBlocks, List.append_assoc, Nat.add_comm m.pendingBlanks, List.replicate_add]

/-- a call that releases blank lines has more of them, after its terminators -/
theorem out_laterBy_of_released (n unit k : Nat) (m : Margin) (h : e.releases = true) :
    ∃ (terminators more : List OutLine) (width : Nat), terminators.all OutLine.isTerminator = true ∧
      more.any OutLine.isTerminator = false ∧ e.out unit m = terminators ++ more ∧
      (e.laterBy n).out unit { m with pendingBlanks := m.pendingBlanks + k } =
        terminators ++ List.replicate k (.blank width) ++ more := by
  have hown : e.own?.toList.any OutLine.isTerminator = false := by
    rw [List.any_eq_false]
    intro line hline hterminator
    have := isOwn_of_own hline
    cases line <;> simp_all [OutLine.isTerminator, OutLine.isOwn]
  cases e with
  | fresh heading continued made =>
    cases made with
    | emitted text scope =>
      obtain ⟨terminators, blanks, hterminators, hblanks, hless, hmore⟩ :=
        closeBlocks_add unit k heading.continues { m with current := heading.width, previous := m.current }
      refine ⟨terminators, blanks ++ (text.map (OutLine.statement heading.width)).toList, heading.width, hterminators,
        ?_, ?_, ?_⟩
      · rw [List.any_append, hblanks]
        exact hown
      · rw [← List.append_assoc, ← hless]; rfl
      · rw [← List.append_assoc, ← hmore]; rfl
    | _ => cases h
  | finish mode =>
    obtain ⟨terminators, blanks, hterminators, hblanks, hless, hmore⟩ :=
      closeBlocks_add unit k false { m with current := 0 }
    refine ⟨terminators, blanks, 0, hterminators, hblanks, ?_, ?_⟩
    · rw [← hless, out]; exact List.append_nil _
    · rw [← hmore, out]; exact List.append_nil _
  | _ => cases h

/-- a block string is open only after a line of it -/
theorem opening_or_inside_of_open {layout : Layout} {a : Assembler} (hfits : e.Fits layout a)
    (hopen : e.modeAfter a.context.mode = .inBlockComment) :
    (∃ string text closed, e = .opening string text closed) ∨ ∃ width text closed, e = .inside width text closed := by
  cases e with
  | blank => exact absurd hopen hfits
  | opening string text closed => exact .inl ⟨string, text, closed, rfl⟩
  | inside width text closed => exact .inr ⟨width, text, closed, rfl⟩
  | interior width text continued => cases continued <;> cases hopen
  | fresh heading continued made =>
    have hmode : a.context.mode = .normal := hfits
    cases made with
    | emitted text scope => cases continued <;> cases hopen
    | _ => exact absurd (hmode.symm.trans hopen) (by decide)
  | finish mode => cases hopen

end Event

section Delayed

variable {config : Config} {n k : Nat} {a b : Assembler}

/-- calls on assemblers at different lines turn out the same -/
theorem event_of_delayed (h : Delayed n k a b) (c : Call) :
    a.event config c = (b.event config c).laterBy n := by
  cases c with
  | finish => rw [event, event, h.mode]; rfl
  | feed raw =>
    simp only [event, plainEvent, h.mode, h.scope, h.lineNumber]
    split_ifs with hmode
    · rw [h.blockString hmode]; rfl
    · rfl
    · rfl
    · split
      · simp only [Event.laterBy]
        congr 2
        omega
      · rfl

/-- what is open at the end of the input is named by a later line -/
theorem unfinished_of_delayed (h : Delayed n k a b) : a.unfinished = b.unfinished.map (Warning.laterBy n) := by
  rw [unfinished, unfinished, h.mode]
  cases hmode : b.context.mode with
  | normal => rfl
  | inBlockComment => rw [h.blockString hmode]; rfl
  | inContinuation => rw [h.lineNumber]; rfl

/-- **One more call.** Assemblers at different lines are at different lines after it; blank lines that are released are no
longer owed. -/
theorem delayed_step (config : Config) (h : Delayed n k a b) (c : Call) :
    SameTurn n (a.turn config c) (b.turn config c) ∧
      Delayed n (if (b.event config c).releases then 0 else k) (a.turn config c).after (b.turn config c).after := by
  have hevent : a.event config c = (b.event config c).laterBy n := event_of_delayed h c
  have hmode : (a.turn config c).after.context.mode = (b.turn config c).after.context.mode := by
    rw [turn_after, turn_after]
    simp only [Event.after, hevent, Event.modeAfter_laterBy, h.mode]
  have hcontinuation : (a.turn config c).after.context.inContinuation = (b.turn config c).after.context.inContinuation := by
    rw [turn_after, turn_after]
    simp only [Event.after, hevent, Event.continuationAfter_laterBy, h.inContinuation]
  have hscope : (a.turn config c).after.context.scope = (b.turn config c).after.context.scope := by
    rw [turn_after, turn_after]
    simp only [Event.after, hevent, Event.scopeAfter_laterBy, h.scope]
  have hwarnings : (a.turn config c).after.context.warnings =
      (b.turn config c).after.context.warnings.map (Warning.laterBy n) := by
    rw [turn_after, turn_after]
    simp only [Event.after, hevent, Event.isFinish_laterBy, h.warnings, unfinished_of_delayed h]
    split <;> simp
  have hisOk : (a.turn config c).result.isOk = (b.turn config c).result.isOk := by
    rw [Bool.eq_iff_iff, turn_isOk_iff, turn_isOk_iff, hevent, Event.fault?_laterBy]
  refine ⟨⟨hevent, hisOk, hmode, hcontinuation, hscope, hwarnings⟩,
    ⟨hmode, ?_, hcontinuation, hscope, ?_, hwarnings, ?_⟩⟩
  · rw [turn_after, turn_after]
    simp only [Event.after, hevent, h.margin, Event.marginAfter_laterBy]
  · rw [turn_after, turn_after]
    simp only [Event.after, hevent, Event.isFinish_laterBy, h.lineNumber]
    split <;> omega
  · intro hopen
    rw [turn_after] at hopen
    rw [turn_after, turn_after, Event.after, Event.after, hevent]
    have hfits := event_fits config b c
    rcases Event.opening_or_inside_of_open _ hfits hopen with ⟨string, text, closed, he⟩ | ⟨width, text, closed, he⟩
    · rw [he]; rfl
    · rw [he] at hfits ⊢
      exact h.blockString hfits

/-- assemblers at different lines give the same lines from there on, and the blank lines that are owed -/
theorem sameTurns_of_delayed (config : Config) (h : Delayed n k a b) (calls : List Call) :
    SameTurns n k (a.turns config calls) (b.turns config calls) := by
  induction calls generalizing a b k with
  | nil => exact .nil
  | cons c rest ih =>
    obtain ⟨hturn, hafter⟩ := delayed_step config h c
    have hout : (a.turn config c).out = ((b.event config c).laterBy n).out config.layout.indentWidth
        { b.context.margin with pendingBlanks := b.context.margin.pendingBlanks + k } := by
      rw [turn_out, event_of_delayed h c, h.margin]
    cases hreleases : (b.event config c).releases with
    | false =>
      rw [hreleases] at hafter
      refine .kept hturn hreleases ?_ (ih hafter)
      rw [hout, turn_out, Event.out_laterBy_of_kept _ _ _ _ hreleases]
    | true =>
      rw [hreleases] at hafter
      obtain ⟨terminators, more, width, hterminators, hmore, hless, hwith⟩ :=
        Event.out_laterBy_of_released _ n config.layout.indentWidth k b.context.margin hreleases
      exact .released hturn hreleases hterminators hmore (hout.trans hwith) ((turn_out config b c).trans hless)
        (ih hafter)

end Delayed

theorem Delayed.trans {n m k l : Nat} {a b c : Assembler} (hab : Delayed n k a b) (hbc : Delayed m l b c) :
    Delayed (n + m) (k + l) a c where
  mode := hab.mode.trans hbc.mode
  margin := by
    rw [hab.margin, hbc.margin]
    simp only [Margin.mk.injEq, true_and]
    omega
  inContinuation := hab.inContinuation.trans hbc.inContinuation
  scope := hab.scope.trans hbc.scope
  lineNumber := by
    rw [hab.lineNumber, hbc.lineNumber]
    omega
  warnings := by
    rw [hab.warnings, hbc.warnings, List.map_map]
    refine List.map_congr_left fun w _ => ?_
    cases hline : w.line with
    | none => simp [Warning.laterBy, hline]
    | some line =>
      simp only [Function.comp, Warning.laterBy, hline, Option.map_some]
      congr 2
      omega
  blockString hmode := by
    rw [hab.blockString (hbc.mode.trans hmode), hbc.blockString hmode]
    simp only [BlockString.mk.injEq, true_and]
    omega

end Assembler

end Linewise
