/-
A new input after the end of another.

The end of an input closes what is open and puts the margin back. What stays of the input is the scope, the number of lines
read, the warnings, and what its last block string left behind. Of these a later call looks at the scope and the number of
the line only: at the warnings none does (`turn_warnedBefore`), and at a block string none before the next one opens. So the
assembler is one that has read nothing, only `Delayed`.

`finish_restarts`: a second end of the input does nothing, and what is fed after the end of an input is converted as if it
came first, in the scope that was left.
-/
import Linewise.Proofs.Delayed

namespace Linewise.Assembler

/-- an assembler that has read nothing yet, in a scope -/
def startIn (scope : Scope) : Assembler := { context := { scope } }

/-- the assembler with these warnings given before its own -/
def warnedBefore (earlier : List Warning) (a : Assembler) : Assembler :=
  { a with context := { a.context with warnings := earlier ++ a.context.warnings } }

/-- the same turn after `n` lines: it gives the same lines or fails for the same reason, and after the earlier warnings there
are the same ones, `n` lines later -/
structure Resumed (n : Nat) (earlier : List Warning) (t u : Turn) : Prop where
  result : t.result = u.result
  warnings : t.after.context.warnings = earlier ++ u.after.context.warnings.map (Warning.laterBy n)

/-! ## Earlier warnings -/

theorem event_warnedBefore (config : Config) (earlier : List Warning) (a : Assembler) (c : Call) :
    (a.warnedBefore earlier).event config c = a.event config c := by
  cases c <;> rfl

theorem Event.after_warnedBefore (unit : Nat) (earlier : List Warning) (a : Assembler) (e : Event) :
    e.after unit (a.warnedBefore earlier) = (e.after unit a).warnedBefore earlier := by
  have hwarnings : (if e.isFinish then earlier ++ a.context.warnings ++ a.unfinished else earlier ++ a.context.warnings) =
      earlier ++ if e.isFinish then a.context.warnings ++ a.unfinished else a.context.warnings := by
    split
    · exact List.append_assoc _ _ _
    · rfl
  exact congrArg (fun warnings => { e.after unit a with context := { (e.after unit a).context with warnings } }) hwarnings

/-- no call looks at the warnings that were given -/
theorem turn_warnedBefore (config : Config) (earlier : List Warning) (a : Assembler) (c : Call) :
    (a.warnedBefore earlier).turn config c =
      { a.turn config c with after := (a.turn config c).after.warnedBefore earlier } := by
  rw [turn, turn, call_eq, call_eq, event_warnedBefore, Event.outcome, Event.outcome, Event.after_warnedBefore]
  rfl

/-! ## Assemblers at different lines that owe the same blank lines -/

theorem Event.out_laterBy (n unit : Nat) (m : Margin) (e : Event) : (e.laterBy n).out unit m = e.out unit m := by
  cases e <;> rfl

theorem result_of_delayed {config : Config} {n : Nat} {a b : Assembler} (h : Delayed n 0 a b) (c : Call) :
    (a.turn config c).result = (b.turn config c).result := by
  have hmargin : a.context.margin = b.context.margin := h.margin
  rw [turn, turn, call_eq, call_eq, Event.outcome, Event.outcome, event_of_delayed h, Event.fault?_laterBy,
    Event.out_laterBy, hmargin]

/-- they give the same lines from there on, whatever the first one warned about before -/
theorem resumed_of_delayed {config : Config} {n : Nat} {a b : Assembler} (h : Delayed n 0 a b) (earlier : List Warning)
    (calls : List Call) :
    List.Forall₂ (Resumed n earlier) ((a.warnedBefore earlier).turns config calls) (b.turns config calls) := by
  induction calls generalizing a b with
  | nil => exact .nil
  | cons c rest ih =>
    obtain ⟨hturn, hafter⟩ := delayed_step config h c
    rw [ite_self] at hafter
    rw [turns, turns, turn_warnedBefore]
    exact .cons ⟨result_of_delayed h c, congrArg (earlier ++ ·) hturn.warnings⟩ (ih hafter)

/-! ## The end of an input -/

/-- when the input has ended nothing is left to close -/
theorem finish_finish (config : Config) (a : Assembler) :
    (a.finish config).2.finish config = ([], (a.finish config).2) := by
  have hunfinished : (a.finish config).2.unfinished = [] := rfl
  rw [finish, hunfinished, List.append_nil]
  rfl

/-- after the end of an input the assembler is one that has read nothing, some lines later -/
theorem delayed_of_finish (config : Config) (a : Assembler) :
    ∃ b : Assembler, (a.finish config).2 = b.warnedBefore (a.finish config).2.context.warnings ∧
      Delayed a.context.lineNumber 0 b (startIn a.context.scope) := by
  refine ⟨{ (a.finish config).2 with context := { (a.finish config).2.context with warnings := [] } }, ?_, ?_⟩
  · rw [warnedBefore, List.append_nil]
  · exact ⟨rfl, rfl, rfl, rfl, (Nat.zero_add _).symm, rfl, fun h => by cases h⟩

/-- every call but the ends of the input reads a line -/
theorem lineNumber_eq_countP (config : Config) (a : Assembler) (calls : List Call) :
    (a.stateAfter config calls).context.lineNumber =
      a.context.lineNumber + (a.turns config calls).countP fun t => !t.event.isFinish := by
  induction calls generalizing a with
  | nil => rfl
  | cons c rest ih =>
    have hafter : (a.turn config c).after.context.lineNumber =
        if (a.event config c).isFinish then a.context.lineNumber else a.context.lineNumber + 1 := by
      rw [turn_after]
      rfl
    rw [turns, List.countP_cons, turn_event]
    show ((a.turn config c).after.stateAfter config rest).context.lineNumber = _
    rw [ih, hafter]
    cases (a.event config c).isFinish
    · simp only [Bool.not_false, if_true, Bool.false_eq_true, if_false]
      omega
    · rfl

/-- **The end of an input starts over.** Make any calls on a fresh assembler, and end the input. A second end of the input
gives no line and changes nothing. Any calls after it give, one by one, what they give on an assembler that has read nothing
and stands in the scope that was left; what they warn about comes after the earlier warnings, at lines that are later by as
many as were read before. -/
theorem finish_restarts (config : Config) (before : List Call) :
    let read := (turns config {} before).countP fun t => !t.event.isFinish
    let ended := ((stateAfter config {} before).finish config).2
    ended.finish config = ([], ended) ∧
      ∀ calls, List.Forall₂ (Resumed read ended.context.warnings) (ended.turns config calls)
        (turns config (startIn ended.context.scope) calls) := by
  intro read ended
  refine ⟨finish_finish config _, fun calls => ?_⟩
  have hread : (stateAfter config {} before).context.lineNumber = read :=
    (lineNumber_eq_countP config {} before).trans (Nat.zero_add _)
  obtain ⟨b, hended, hdelayed⟩ := delayed_of_finish config (stateAfter config {} before)
  rw [hread] at hdelayed
  have hresumed : List.Forall₂ (Resumed read ended.context.warnings)
      ((b.warnedBefore ended.context.warnings).turns config calls) (turns config (startIn ended.context.scope) calls) :=
    resumed_of_delayed hdelayed ended.context.warnings calls
  rwa [show b.warnedBefore ended.context.warnings = ended from hended.symm] at hresumed

end Linewise.Assembler
