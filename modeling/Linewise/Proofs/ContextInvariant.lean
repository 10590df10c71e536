/-
The context between two calls, read off the history.

`Reflects` says what every field of the context is in terms of the calls so far: both indentations stand at the width of
the last statement since the end of the last input, the blank lines owed are those met since the last statement, and the
counters count what they are named for. Every line first moves the indentation and each kind of line puts it back in its
own way; that all of them do is `reflects_step`, one case for each event.

`context_reflects_history`: after any calls of which none failed, on a fresh assembler, the context is what the history
says.
-/
import Linewise.Proofs.Frozen
import Linewise.Proofs.History

namespace Linewise.Assembler

/-- the end of the input where more of it was expected -/
def Event.isUntimely : Event → Bool
  | .finish mode => decide (mode ≠ .normal)
  | _ => false

/-- the width of the last statement since the last end of the input, 0 if there is none -/
def standing (past : List Turn) : Nat :=
  ((headings (past.rtakeWhile fun t => !t.event.isFinish)).getLast?.map Heading.width).getD 0

/-- every field of the context is what the history says -/
structure Reflects (layout : Layout) (past : List Turn) (a : Assembler) : Prop where
  current : a.context.margin.current = standing past
  previous : a.context.margin.previous = standing past
  pendingBlanks : a.context.margin.pendingBlanks = owed past
  inContinuation : a.context.inContinuation = true ↔ a.context.mode = .inContinuation
  /-- one line for each call but the ends of the input -/
  lineNumber : a.context.lineNumber = past.countP fun t => !t.event.isFinish
  linesEmitted : a.context.linesEmitted = (past.flatMap Turn.out).length
  warnings : a.context.warnings.length = past.countP fun t => t.event.isUntimely
  delimiter : a.context.mode = .inBlockComment →
    a.blockString.delimiter ∈ layout.blockStringDelimiters ∧ a.blockString.delimiter ≠ []

/-! ## One more turn -/

theorem standing_snoc (past : List Turn) (t : Turn) :
    standing (past ++ [t]) =
      if t.event.isFinish then 0 else (t.event.heading?.map Heading.width).getD (standing past) := by
  unfold standing
  rw [List.rtakeWhile_concat]
  cases hfinish : t.event.isFinish with
  | true => rfl
  | false =>
    simp only [Bool.not_false, if_true, headings, List.filterMap_append]
    cases hheading : t.event.heading? with
    | none => simp [hheading]
    | some heading => simp [hheading]

/-- the flag and the mode change together -/
theorem Event.continuationAfter_iff {layout : Layout} {a : Assembler} {e : Event} (hfits : e.Fits layout a)
    (h : a.context.inContinuation = true ↔ a.context.mode = .inContinuation) :
    e.continuationAfter a.context.inContinuation = true ↔ e.modeAfter a.context.mode = .inContinuation := by
  cases e with
  | blank => exact h
  | opening string text closed =>
    -- a block string opens only in normal mode, so the flag is down already
    have hdown : a.context.inContinuation ≠ true := by
      intro hup
      rw [hfits.1] at h
      cases h.1 hup
    cases closed <;> simpa [continuationAfter, modeAfter] using hdown
  | inside width text closed =>
    have hmode : a.context.mode = .inBlockComment := hfits
    have hdown : a.context.inContinuation ≠ true := by
      intro hup
      rw [hmode] at h
      cases h.1 hup
    cases closed <;> simpa [continuationAfter, modeAfter, hmode] using hdown
  | interior width text continued => cases continued <;> simp [continuationAfter, modeAfter]
  | fresh heading continued made =>
    cases made with
    | emitted text scope => cases continued <;> simp [continuationAfter, modeAfter]
    | _ => exact h
  | finish mode => simp [continuationAfter, modeAfter]

/-- a block string that is open after the event has one of the delimiters, if the one open before it had -/
theorem Event.delimiter_of_open {layout : Layout} {a : Assembler} {e : Event} (hfits : e.Fits layout a)
    (h : a.context.mode = .inBlockComment → a.blockString.delimiter ∈ layout.blockStringDelimiters)
    (hopen : e.modeAfter a.context.mode = .inBlockComment) :
    (e.blockStringAfter a.blockString).delimiter ∈ layout.blockStringDelimiters := by
  cases e with
  | blank => exact absurd hopen hfits
  | opening string text closed => exact hfits.2
  | inside width text closed => exact h hfits
  | interior width text continued => cases continued <;> cases hopen
  | fresh heading continued made =>
    have hmode : a.context.mode = .normal := hfits
    cases made with
    | emitted text scope => cases continued <;> cases hopen
    | _ => exact absurd (hmode.symm.trans hopen) (by decide)
  | finish mode => cases hopen

/-- the end of the input warns about what is still open, once, and nothing else warns -/
theorem Event.length_warnings {layout : Layout} {unit : Nat} {a : Assembler} {e : Event} (hfits : e.Fits layout a) :
    (e.after unit a).context.warnings.length = a.context.warnings.length + if e.isUntimely then 1 else 0 := by
  cases e with
  | finish mode =>
    have hmode : a.context.mode = mode := hfits
    subst hmode
    show (a.context.warnings ++ a.unfinished).length = _
    rw [List.length_append, unfinished, isUntimely]
    cases a.context.mode <;> rfl
  | _ => rfl

theorem reflects_step {config : Config} (hfrozen : config.IsFrozen) (past : List Turn) (a : Assembler) (c : Call)
    (h : Reflects config.layout past a) (hok : (a.turn config c).result.isOk = true) :
    Reflects config.layout (past ++ [a.turn config c]) (a.turn config c).after := by
  have hfits := event_fits config a c
  have hfault := turn_isOk_iff.1 hok
  have hmargin : (a.turn config c).after.context.margin = (a.event config c).marginAfter a.context.margin := by
    rw [turn_after]; rfl
  rw [Event.marginAfter_eq (h.previous.trans h.current.symm) hfault] at hmargin
  refine ⟨?_, ?_, ?_, ?_, ?_, ?_, ?_, ?_⟩
  · rw [hmargin, standing_snoc, h.current]; rfl
  · rw [hmargin, standing_snoc, h.current]; rfl
  · rw [hmargin, owed_snoc, h.pendingBlanks]; rfl
  · rw [turn_after]
    exact Event.continuationAfter_iff hfits h.inContinuation
  · rw [turn_after, List.countP_append, ← h.lineNumber]
    cases hfinish : (a.event config c).isFinish <;> simp [Event.after, turn, hfinish]
  · rw [List.flatMap_append, List.length_append, ← h.linesEmitted, List.flatMap_singleton, turn_out, turn_after]
    rfl
  · rw [turn_after, List.countP_append, ← h.warnings, Event.length_warnings hfits]
    simp [turn, List.countP_singleton]
  · rw [turn_after]
    intro hopen
    have hmem := Event.delimiter_of_open hfits (fun hmode => (h.delimiter hmode).1) hopen
    exact ⟨hmem, hfrozen.delimiter_ne_nil _ hmem⟩

/-- **The context reflects the history.** Make any calls on a fresh assembler. If none of them fails, every field of the
context is what the history says; as the calls are arbitrary, this is so after each of them. -/
theorem context_reflects_history {config : Config} (hfrozen : config.IsFrozen) (calls : List Call)
    (hok : ∀ t ∈ turns config {} calls, t.result.isOk = true) :
    Reflects config.layout (turns config {} calls) (stateAfter config {} calls) := by
  have hstart : Reflects config.layout [] {} :=
    ⟨rfl, rfl, rfl, by decide, rfl, rfl, rfl, fun h => by cases h⟩
  simpa using turns_inv (reflects_step hfrozen) calls hstart hok

/-- an emptied statement, a blank line and a block string without an end; then a second input, a line that is continued
across a blank one, and its end in the middle of that -/
theorem context_reflects_two_inputs :
    let config := Config.replacing "pass" ""
    let calls : List Call :=
      [.feed "class A:", .feed "    pass", .feed "", .feed "    '''text", .finish, .feed "  x = 1 + \\", .feed "",
        .feed "    2 + \\", .finish]
    config.IsFrozen ∧ (∀ t ∈ turns config {} calls, t.result.isOk = true) ∧
      Reflects config.layout (turns config {} calls) (stateAfter config {} calls) := by
  intro config calls
  have hfrozen : config.IsFrozen := Config.replacing_isFrozen (by decide +kernel)
  have hok : ∀ t ∈ turns config {} calls, t.result.isOk = true := by decide +kernel
  exact ⟨hfrozen, hok, context_reflects_history hfrozen calls hok⟩

end Linewise.Assembler
