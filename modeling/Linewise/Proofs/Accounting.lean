/-
Every line is accounted for.

A turn gives terminators, then the blank lines that were owed, then the line that its own input line becomes
(`Accounted.each`). `dueBlanks` looks from the other end: for each line that comes to be owed as a blank one, the
line it will be when the next statement or the end of the input releases it.

`every_line_accounted`: on the way from the first line of a conversion to its end no line is lost and none comes out
twice. What carries the count through the calls is `Balanced`, in which the blank lines that are still owed stand
beside those that came out.
-/
import Linewise.Proofs.Frozen
import Linewise.Proofs.History

namespace Linewise

namespace OutLine

def isTerminator : OutLine → Bool
  | .terminator _ => true
  | _ => false

def isBlank : OutLine → Bool
  | .blank _ => true
  | _ => false

/-- a line that comes from the one line of the input that it stands for -/
def isOwn : OutLine → Bool
  | .terminator _ => false
  | .blank _ => false
  | _ => true

theorem isBlank_of_isOwn {line : OutLine} (h : line.isOwn = true) : line.isBlank = false := by
  cases line with
  | blank width => cases h
  | _ => rfl

/-- a line is a terminator, a released blank line or the own line of an input line -/
theorem length_eq (lines : List OutLine) :
    lines.length = lines.countP isTerminator + (lines.filter isBlank).length + (lines.filter isOwn).length := by
  induction lines with
  | nil => rfl
  | cons line rest ih =>
    rw [List.length_cons, ih, List.countP_cons, List.filter_cons, List.filter_cons]
    cases line <;> simp [isTerminator, isBlank, isOwn] <;> omega

end OutLine

namespace Assembler

/-- a statement that the dispatch leaves out -/
def Event.isSuppressed : Event → Bool
  | .fresh _ _ (.emitted none _) => true
  | _ => false

/-- the width of the first statement to come, which releases the blank lines that are owed; the end of the input
releases them at the margin -/
def releaseWidth (later : List Turn) : Nat := ((headings later).head?.map Heading.width).getD 0

/-- the blank lines that come to be owed, each as it will be released -/
def dueBlanks : List Turn → List OutLine
  | [] => []
  | t :: later => (if t.event.owes then [OutLine.blank (releaseWidth later)] else []) ++ dueBlanks later

/-- the lines `out` that came out of a history are just those that it accounts for -/
structure Accounted (ts : List Turn) (out : List OutLine) : Prop where
  /-- call by call: terminators, the blank lines owed until then if the call releases them, and the line's own line -/
  each : ∀ past t later, ts = past ++ t :: later → ∃ depths : List Nat,
    t.out = depths.map .terminator ++
      List.replicate (if t.event.releases then owed past else 0) (.blank (releaseWidth [t])) ++ t.event.own?.toList
  /-- no line's own line is lost, in the order of the input -/
  own : out.filter OutLine.isOwn = ts.filterMap fun t => t.event.own?
  /-- no blank line is lost, indented like the statement that releases it -/
  blanks : out.filter OutLine.isBlank = dueBlanks ts

/-- what came out, what is still owed and what was suppressed are the lines read and the terminators -/
def Balanced (past : List Turn) (a : Assembler) : Prop :=
  a.context.linesEmitted + a.context.margin.pendingBlanks + past.countP (fun t => t.event.isSuppressed) =
    (past.flatMap Turn.out).countP OutLine.isTerminator + past.countP fun t => !t.event.isFinish

/-! ## One call -/

namespace Event

theorem isOwn_of_own {e : Event} {line : OutLine} (h : line ∈ e.own?.toList) : line.isOwn = true := by
  rw [Option.mem_toList] at h
  cases e with
  | fresh heading continued made =>
    cases made with
    | emitted text scope =>
      obtain ⟨text, -, rfl⟩ := Option.map_eq_some_iff.1 h
      rfl
    | _ => cases h
  | _ => cases h <;> rfl

/-- terminators, then the blank lines that were owed -/
theorem exists_released_eq (unit : Nat) (m : Margin) (e : Event) :
    ∃ depths : List Nat, e.released unit m = depths.map .terminator ++
      List.replicate (if e.releases then m.pendingBlanks else 0) (.blank ((e.heading?.map Heading.width).getD 0)) := by
  by_cases hreleases : e.releases = true
  · rw [if_pos hreleases]
    cases e with
    | fresh heading continued made =>
      cases made with
      | emitted text scope => exact ⟨_, rfl⟩
      | _ => cases hreleases
    | finish mode => exact ⟨_, rfl⟩
    | _ => cases hreleases
  · refine ⟨[], ?_⟩
    rw [released_of_releases_eq_false (by simpa using hreleases), if_neg hreleases]
    rfl

/-- nothing that is released is some line's own line -/
theorem isOwn_of_released {unit : Nat} {m : Margin} {e : Event} {line : OutLine} (h : line ∈ e.released unit m) :
    line.isOwn = false := by
  obtain ⟨depths, hreleased⟩ := e.exists_released_eq unit m
  rw [hreleased, List.mem_append] at h
  rcases h with h | h
  · obtain ⟨depth, -, rfl⟩ := List.mem_map.1 h
    rfl
  · rw [List.eq_of_mem_replicate h]
    rfl

theorem filter_isOwn_out (unit : Nat) (m : Margin) (e : Event) :
    (e.out unit m).filter OutLine.isOwn = e.own?.toList := by
  have hreleased : (e.released unit m).filter OutLine.isOwn = [] :=
    List.filter_eq_nil_iff.2 fun line h => by rw [isOwn_of_released h]; decide
  rw [out, List.filter_append, hreleased, List.nil_append]
  exact List.filter_eq_self.2 fun line => isOwn_of_own

/-- the lines beside the line's own are those that are released -/
theorem filter_released_out (unit : Nat) (m : Margin) (e : Event) :
    (e.out unit m).filter (fun line => !line.isOwn) = e.released unit m := by
  have hown : e.own?.toList.filter (fun line => !line.isOwn) = [] :=
    List.filter_eq_nil_iff.2 fun line h => by rw [isOwn_of_own h]; decide
  rw [out, List.filter_append, hown, List.append_nil]
  exact List.filter_eq_self.2 fun line h => by rw [isOwn_of_released h]; rfl

theorem filter_isBlank_out (unit : Nat) (m : Margin) (e : Event) :
    (e.out unit m).filter OutLine.isBlank =
      List.replicate (if e.releases then m.pendingBlanks else 0) (.blank ((e.heading?.map Heading.width).getD 0)) := by
  obtain ⟨depths, hreleased⟩ := e.exists_released_eq unit m
  have hterminators : (depths.map OutLine.terminator).filter OutLine.isBlank = [] := by simp [OutLine.isBlank]
  have hown : e.own?.toList.filter OutLine.isBlank = [] :=
    List.filter_eq_nil_iff.2 fun line h => by rw [OutLine.isBlank_of_isOwn (isOwn_of_own h)]; decide
  rw [out, hreleased, List.filter_append, List.filter_append, hterminators, hown, List.nil_append, List.append_nil]
  exact List.filter_replicate_of_pos rfl

/-- what comes out, what is still owed and what is suppressed is what was owed, the line itself and the terminators -/
theorem balance (unit : Nat) (m : Margin) {e : Event} (hok : e.fault? = none) :
    (e.out unit m).length + (e.marginAfter m).pendingBlanks + (if e.isSuppressed then 1 else 0) =
      (e.out unit m).countP OutLine.isTerminator + m.pendingBlanks + if !e.isFinish then 1 else 0 := by
  rw [OutLine.length_eq, filter_isBlank_out, filter_isOwn_out, pendingBlanks_marginAfter, List.length_replicate]
  generalize (e.out unit m).countP OutLine.isTerminator = terminators
  cases e with
  | fresh heading continued made =>
    cases made with
    | failed fault => cases hok
    | emptied => simp [releases, owes, own?, isSuppressed, isFinish]; omega
    | emitted text scope => cases text <;> simp [releases, own?, isSuppressed, isFinish]
  | _ => simp [releases, owes, own?, isSuppressed, isFinish] <;> omega

/-- a line either releases the blank lines that are owed, or leaves them, and perhaps one more, to a later one of this
width -/
theorem released_append {e : Event} (hfinish : e.isFinish = false) (pending width : Nat) (due : List OutLine) :
    List.replicate (if e.releases then pending else 0) (.blank ((e.heading?.map Heading.width).getD 0)) ++
        (List.replicate (if e.releases then 0 else pending + if e.owes then 1 else 0) (.blank width) ++ due) =
      List.replicate pending (.blank ((e.heading?.map Heading.width).getD width)) ++
        ((if e.owes then [.blank width] else []) ++ due) := by
  rw [releases_eq, hfinish]
  cases hheading : e.heading? with
  | some heading =>
    obtain ⟨continued, text, scope, rfl⟩ := eq_of_heading hheading
    rfl
  | none => cases e.owes <;> simp [List.replicate_add]

end Event

/-! ## Whole histories -/

/-- the own lines that come out, in order -/
theorem filter_isOwn_turns (config : Config) (a : Assembler) (calls : List Call) :
    ((a.turns config calls).flatMap Turn.out).filter OutLine.isOwn =
      (a.turns config calls).filterMap fun t => t.event.own? := by
  induction calls generalizing a with
  | nil => rfl
  | cons c rest ih =>
    rw [turns, List.flatMap_cons, List.filter_append, ih, turn_out, Event.filter_isOwn_out, List.filterMap_cons,
      turn_event]
    cases (a.event config c).own? <;> rfl

/-- the assembler owes as many blank lines as the calls before left owed -/
theorem pendingBlanks_stateAfter (config : Config) (calls : List Call) {past : List Turn} {a : Assembler}
    (h : a.context.margin.pendingBlanks = owed past) :
    (stateAfter config a calls).context.margin.pendingBlanks = owed (past ++ turns config a calls) := by
  induction calls generalizing past a with
  | nil => rw [turns, List.append_nil]; exact h
  | cons c rest ih =>
    have hturn : (a.turn config c).after.context.margin.pendingBlanks = owed (past ++ [a.turn config c]) := by
      rw [owed_snoc, ← h, turn_after]
      exact Event.pendingBlanks_marginAfter _ _
    have hrest := ih hturn
    rw [List.append_assoc] at hrest
    exact hrest

theorem releaseWidth_cons (t : Turn) (later : List Turn) :
    releaseWidth (t :: later) = (t.event.heading?.map Heading.width).getD (releaseWidth later) := by
  rw [releaseWidth, headings_cons]
  cases t.event.heading? <;> rfl

/-- the blank lines that come out of a conversion: those owed at its start, then those that come to be owed in it -/
theorem filter_isBlank_turns (config : Config) (a : Assembler) (lines : List Text) :
    ((a.turns config (wholeInput lines)).flatMap Turn.out).filter OutLine.isBlank =
      List.replicate a.context.margin.pendingBlanks (.blank (releaseWidth (a.turns config (wholeInput lines)))) ++
        dueBlanks (a.turns config (wholeInput lines)) := by
  induction lines generalizing a with
  | nil =>
    show (([a.turn config .finish] : List Turn).flatMap Turn.out).filter OutLine.isBlank = _
    rw [List.flatMap_singleton, turn_out, Event.filter_isBlank_out]
    exact (List.append_nil _).symm
  | cons line rest ih =>
    show ((a.turn config (.feed line) :: turns config _ (wholeInput rest)).flatMap Turn.out).filter OutLine.isBlank = _
    rw [List.flatMap_cons, List.filter_append, ih, turn_out, Event.filter_isBlank_out, turn_after]
    show _ ++ (List.replicate ((a.event config (.feed line)).marginAfter a.context.margin).pendingBlanks _ ++ _) =
      List.replicate _ (.blank (releaseWidth (a.turn config (.feed line) :: turns config _ (wholeInput rest)))) ++
        dueBlanks (a.turn config (.feed line) :: turns config _ (wholeInput rest))
    rw [releaseWidth_cons, dueBlanks, Event.pendingBlanks_marginAfter, turn_after]
    exact Event.released_append (event_feed_isFinish config a line) _ _ _

theorem balanced_step (config : Config) (past : List Turn) (a : Assembler) (c : Call) (h : Balanced past a)
    (hok : (a.turn config c).result.isOk = true) : Balanced (past ++ [a.turn config c]) (a.turn config c).after := by
  have hturn := Event.balance config.layout.indentWidth a.context.margin (turn_isOk_iff.1 hok)
  rw [Balanced] at h ⊢
  rw [List.flatMap_append, List.flatMap_singleton, List.countP_append, List.countP_append, List.countP_append,
    List.countP_singleton, List.countP_singleton, turn_out, turn_after, turn_event]
  show a.context.linesEmitted + _ + ((a.event config c).marginAfter a.context.margin).pendingBlanks + _ = _
  omega

/-! ## Whole conversions -/

/-- the end of the input leaves no blank line owed -/
theorem pendingBlanks_wholeInput (config : Config) (a : Assembler) (lines : List Text) :
    (stateAfter config a (wholeInput lines)).context.margin.pendingBlanks = 0 := by
  rw [stateAfter, wholeInput, List.foldl_append]
  rfl

/-- one line for each call but the end of the input -/
theorem countP_isFinish (config : Config) (a : Assembler) (lines : List Text) :
    (a.turns config (wholeInput lines)).countP (fun t => !t.event.isFinish) = lines.length := by
  induction lines generalizing a with
  | nil => rfl
  | cons line rest ih =>
    show (a.turn config (.feed line) :: turns config _ (wholeInput rest)).countP _ = _
    have hfinish : (a.turn config (.feed line)).event.isFinish = false := event_feed_isFinish config a line
    rw [List.countP_cons, ih, hfinish]
    rfl

/-- the lines that come out, those that stay owed and those that are suppressed are those that were owed, those that are
fed and the terminators -/
theorem length_turns {config : Config} {a : Assembler} (calls : List Call)
    (hok : ∀ t ∈ a.turns config calls, t.result.isOk = true) :
    ((a.turns config calls).flatMap Turn.out).length + (a.stateAfter config calls).context.margin.pendingBlanks +
        (a.turns config calls).countP (fun t => t.event.isSuppressed) =
      ((a.turns config calls).flatMap Turn.out).countP OutLine.isTerminator + a.context.margin.pendingBlanks +
        (a.turns config calls).countP fun t => !t.event.isFinish := by
  induction calls generalizing a with
  | nil => simp [turns, stateAfter]
  | cons c rest ih =>
    obtain ⟨hfirst, hrest⟩ := List.forall_mem_cons.1 hok
    have hcall := Event.balance config.layout.indentWidth a.context.margin (turn_isOk_iff.1 hfirst)
    have hmore := ih hrest
    have hafter : (a.turn config c).after.context.margin = (a.event config c).marginAfter a.context.margin := by
      rw [turn_after]
      rfl
    have hstate : a.stateAfter config (c :: rest) = (a.turn config c).after.stateAfter config rest := rfl
    rw [hafter] at hmore
    rw [turns, List.flatMap_cons, List.length_append, List.countP_append, List.countP_cons, List.countP_cons, hstate,
      turn_out, turn_event]
    omega

/-- one line comes out for each that is read, unless it is suppressed, and one for each terminator -/
theorem length_lines {config : Config} {lines : List Text} (hrun : (Conversion.ofLines config lines).fault = none) :
    (Conversion.ofLines config lines).lines.length + (history config lines).countP (fun t => t.event.isSuppressed) =
      lines.length + (Conversion.ofLines config lines).lines.countP OutLine.isTerminator := by
  obtain ⟨hok, hlines, -⟩ := run_of_fault_none hrun
  have hlength := length_turns (wholeInput lines) hok
  rw [pendingBlanks_wholeInput, countP_isFinish, Nat.add_zero, ← hlines] at hlength
  exact hlength.trans (Nat.add_comm _ _)

/-- the lines that come out of a history are those that it accounts for -/
theorem accounted_history (config : Config) (lines : List Text) :
    Accounted (history config lines) ((history config lines).flatMap Turn.out) := by
  refine ⟨?_, filter_isOwn_turns config {} (wholeInput lines), filter_isBlank_turns config {} lines⟩
  intro past t later hsplit
  obtain ⟨before, c, after, -, rfl, rfl⟩ := split_turns hsplit
  obtain ⟨depths, hreleased⟩ := ((stateAfter config {} before).event config c).exists_released_eq
    config.layout.indentWidth (stateAfter config {} before).context.margin
  have hstart : ({} : Assembler).context.margin.pendingBlanks = owed [] := rfl
  have howed := pendingBlanks_stateAfter config before hstart
  refine ⟨depths, ?_⟩
  rw [turn_out, Event.out, hreleased, howed, releaseWidth_cons]
  rfl

/-- **Every line is accounted for.** Convert any input to its end. The lines that come out are the input lines' own
lines, in order, the blank lines that came to be owed, each indented like the statement that releases it, and
terminators; so as many come out as were read, less the suppressed statements, and the terminators. -/
theorem every_line_accounted {config : Config} {lines : List Text}
    (hrun : (Conversion.ofLines config lines).fault = none) :
    Accounted (history config lines) (Conversion.ofLines config lines).lines ∧
      (Conversion.ofLines config lines).final.context.linesEmitted +
          (history config lines).countP (fun t => t.event.isSuppressed) =
        lines.length + (Conversion.ofLines config lines).lines.countP OutLine.isTerminator := by
  obtain ⟨hok, hlines, hfinal⟩ := run_of_fault_none hrun
  rw [Conversion.ofLines, hlines, hfinal]
  refine ⟨accounted_history config lines, ?_⟩
  have hstart : Balanced [] {} := rfl
  have hbalance := turns_inv (balanced_step config) (wholeInput lines) hstart hok
  rw [Balanced, List.nil_append, pendingBlanks_wholeInput, countP_isFinish, Nat.add_zero] at hbalance
  rw [history, hbalance, Nat.add_comm]

/-- blank lines before a decorator that is left out, in a block string, before a statement of which nothing is left and
at the end -/
theorem accounted_decorator_and_pass :
    let config := Config.replacing "pass" ""
    let lines : List Text :=
      ["", "class A:", "", "    @staticmethod", "    def f(x):", "        \"\"\"text", "", "        \"\"\"", "",
        "        pass", "        return 1 + \\", "  x", ""]
    (Conversion.ofLines config lines).fault = none ∧
      Accounted (history config lines) (Conversion.ofLines config lines).lines := by
  intro config lines
  have hrun : (Conversion.ofLines config lines).fault = none := by decide +kernel
  exact ⟨hrun, (every_line_accounted hrun).1⟩

end Assembler

end Linewise
