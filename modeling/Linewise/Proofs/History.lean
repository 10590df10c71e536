/-
Histories: what happened call by call.

`turns` makes a sequence of calls, each on the state that the one before it left, and keeps of each what it turned out
to be, what it gave and what it left. Nothing stops at a failure. `turns_inv` is the induction of every invariant: what
holds at the start and is kept by each call that does not fail holds after all of them. `run_of_fault_none`: a conversion
that reaches its end is the history of its lines followed by the end of the input.
-/
import Linewise.Conversion
import Linewise.Proofs.Event
import Mathlib.Data.List.DropRight

namespace Linewise.Assembler

/-- one call of a history: what it was, what it gave, and the state after it -/
structure Turn where
  event : Event
  result : Except Pattern.Fault (List OutLine)
  after : Assembler

/-- the lines that came out -/
def Turn.out (t : Turn) : List OutLine :=
  match t.result with
  | .ok lines => lines
  | .error _ => []

/-- make a call, and keep what happened -/
def turn (config : Config) (a : Assembler) (c : Call) : Turn :=
  ⟨a.event config c, (a.call config c).1, (a.call config c).2⟩

/-- the calls one after another -/
def turns (config : Config) (a : Assembler) : List Call → List Turn
  | [] => []
  | c :: rest => a.turn config c :: turns config (a.turn config c).after rest

/-- the state after the calls -/
def stateAfter (config : Config) (a : Assembler) (calls : List Call) : Assembler :=
  calls.foldl (fun a c => (a.turn config c).after) a

/-- the calls of a conversion: every line, then the end of the input -/
def wholeInput (lines : List Text) : List Call := lines.map .feed ++ [.finish]

/-- the history of a conversion -/
def history (config : Config) (lines : List Text) : List Turn := turns config {} (wholeInput lines)

/-- the statements of a history that were not emptied -/
def headings (ts : List Turn) : List Heading := ts.filterMap fun t => t.event.heading?

theorem headings_cons (t : Turn) (ts : List Turn) : headings (t :: ts) = t.event.heading?.toList ++ headings ts := by
  rw [headings, List.filterMap_cons]
  cases t.event.heading? <;> rfl

/-- how many blank lines came to be owed since the last call that released them -/
def owed (past : List Turn) : Nat := (past.rtakeWhile fun t => !t.event.releases).countP fun t => t.event.owes

theorem owed_snoc (past : List Turn) (t : Turn) :
    owed (past ++ [t]) = if t.event.releases then 0 else owed past + if t.event.owes then 1 else 0 := by
  unfold owed
  rw [List.rtakeWhile_concat]
  cases hreleases : t.event.releases with
  | true => rfl
  | false => simp [List.countP_append]

/-! ## One turn -/

theorem turn_event (config : Config) (a : Assembler) (c : Call) : (a.turn config c).event = a.event config c := rfl

theorem turn_after (config : Config) (a : Assembler) (c : Call) :
    (a.turn config c).after = (a.event config c).after config.layout.indentWidth a := by
  rw [turn, call_eq]
  rfl

/-- a call that fails gives no line, and its event has none -/
theorem Event.out_of_fault {unit : Nat} {m : Margin} {e : Event} {fault : Pattern.Fault} (h : e.fault? = some fault) :
    e.out unit m = [] := by
  cases e with
  | fresh heading continued made =>
    cases made with
    | failed _ => rfl
    | _ => cases h
  | _ => cases h

theorem turn_out (config : Config) (a : Assembler) (c : Call) :
    (a.turn config c).out = (a.event config c).out config.layout.indentWidth a.context.margin := by
  rw [turn, Turn.out, call_eq, Event.outcome]
  cases h : (a.event config c).fault? with
  | none => rfl
  | some fault => exact (Event.out_of_fault h).symm

/-- a call gives lines just if its event has no fault -/
theorem turn_isOk_iff {config : Config} {a : Assembler} {c : Call} :
    (a.turn config c).result.isOk = true ↔ (a.event config c).fault? = none := by
  rw [turn, call_eq, Event.outcome]
  cases (a.event config c).fault? with
  | none => exact iff_of_true rfl rfl
  | some fault =>
    constructor
    · intro h
      cases h
    · intro h
      cases h

/-! ## Whole histories -/

theorem turns_append (config : Config) (a : Assembler) (p q : List Call) :
    a.turns config (p ++ q) = a.turns config p ++ (a.stateAfter config p).turns config q := by
  induction p generalizing a with
  | nil => rfl
  | cons c rest ih => rw [List.cons_append, turns, turns, ih, List.cons_append]; rfl

theorem stateAfter_append (config : Config) (a : Assembler) (p q : List Call) :
    a.stateAfter config (p ++ q) = (a.stateAfter config p).stateAfter config q :=
  List.foldl_append

/-- what holds at the start and is kept by every call that does not fail holds after all of them -/
theorem turns_inv {config : Config} {Inv : List Turn → Assembler → Prop}
    (step : ∀ past a c, Inv past a → (a.turn config c).result.isOk = true →
      Inv (past ++ [a.turn config c]) (a.turn config c).after)
    {past : List Turn} {a : Assembler} (calls : List Call) (h : Inv past a)
    (hok : ∀ t ∈ a.turns config calls, t.result.isOk = true) :
    Inv (past ++ a.turns config calls) (a.stateAfter config calls) := by
  induction calls generalizing past a with
  | nil => simpa [turns, stateAfter] using h
  | cons c rest ih =>
    have hnext := step past a c h (hok _ List.mem_cons_self)
    have hrest := ih hnext fun t ht => hok t (List.mem_cons_of_mem _ ht)
    rwa [List.append_assoc] at hrest

/-- the turns from some point on are those of the calls from there on -/
theorem turns_eq_append {config : Config} {a : Assembler} {calls : List Call} {past later : List Turn}
    (h : a.turns config calls = past ++ later) :
    ∃ before after, calls = before ++ after ∧ past = a.turns config before ∧
      later = (a.stateAfter config before).turns config after := by
  induction past generalizing a calls with
  | nil => exact ⟨[], calls, rfl, rfl, h.symm⟩
  | cons t past ih =>
    cases calls with
    | nil => cases h
    | cons c calls =>
      injection h with ht h
      obtain ⟨before, after, hcalls, hpast, hlater⟩ := ih h
      exact ⟨c :: before, after, by rw [hcalls]; rfl, by rw [hpast, ← ht]; rfl, hlater⟩

/-- each turn of a history is a call on the state that the calls before it left -/
theorem split_turns {config : Config} {a : Assembler} {calls : List Call} {past rest : List Turn} {t : Turn}
    (h : a.turns config calls = past ++ t :: rest) :
    ∃ before c after, calls = before ++ c :: after ∧ past = a.turns config before ∧
      t = (a.stateAfter config before).turn config c := by
  induction calls generalizing a past with
  | nil => cases past <;> cases h
  | cons c calls ih =>
    cases past with
    | nil =>
      injection h with h
      exact ⟨[], c, calls, rfl, rfl, h.symm⟩
    | cons u past =>
      injection h with hu h
      obtain ⟨before, c', after, hcalls, hpast, hturn⟩ := ih h
      exact ⟨c :: before, c', after, by rw [hcalls]; rfl, by rw [hpast, ← hu]; rfl, hturn⟩

/-- a turn of a history fails just if its event does -/
theorem isOk_iff_of_mem {config : Config} {a : Assembler} {calls : List Call} {t : Turn}
    (ht : t ∈ a.turns config calls) : t.result.isOk = true ↔ t.event.fault? = none := by
  obtain ⟨past, rest, hsplit⟩ := List.append_of_mem ht
  obtain ⟨before, c, after, -, -, rfl⟩ := split_turns hsplit
  exact turn_isOk_iff

/-- every call of a conversion before its end feeds one of its lines -/
theorem split_wholeInput {config : Config} {a : Assembler} {lines : List Text} {past rest : List Turn} {t : Turn}
    (h : a.turns config (wholeInput lines) = past ++ t :: rest) (ht : t.event.isFinish = false) :
    ∃ (before : List Text) (line : Text), past = a.turns config (before.map .feed) ∧
      t = (a.stateAfter config (before.map .feed)).turn config (.feed line) := by
  obtain ⟨before, c, after, hcalls, rfl, rfl⟩ := split_turns h
  cases c with
  | finish => cases ht
  | feed line =>
    rcases List.append_eq_append_iff.1 hcalls with ⟨later, -, hend⟩ | ⟨later, hlines, -⟩
    · cases later with
      | nil => cases hend
      | cons _ later => cases later <;> cases hend
    · obtain ⟨first, second, -, rfl, -⟩ := List.map_eq_append_iff.1 hlines
      exact ⟨first, line, rfl, rfl⟩

/-- a conversion that reaches its end is the history of its lines and the end of the input -/
theorem run_of_fault_none {config : Config} {a : Assembler} {lines : List Text}
    (h : (Conversion.run config a lines).fault = none) :
    (∀ t ∈ a.turns config (wholeInput lines), t.result.isOk = true) ∧
      (Conversion.run config a lines).lines = (a.turns config (wholeInput lines)).flatMap Turn.out ∧
      (Conversion.run config a lines).final = a.stateAfter config (wholeInput lines) := by
  induction lines generalizing a with
  | nil =>
    refine ⟨fun t ht => ?_, ?_, rfl⟩
    · obtain rfl := List.mem_singleton.1 ht
      rfl
    · simp [wholeInput, turns, turn, Turn.out, call, Conversion.run]
  | cons line rest ih =>
    rw [Conversion.run] at h ⊢
    cases hfeed : a.feed config line with
    | mk result b =>
      cases result with
      | error fault => rw [hfeed] at h; cases h
      | ok out =>
        rw [hfeed] at h
        have hturn : a.turn config (.feed line) = ⟨a.event config (.feed line), .ok out, b⟩ := by
          rw [turn, call, hfeed]
        obtain ⟨hok, hlines, hfinal⟩ := ih h
        refine ⟨fun t ht => ?_, ?_, ?_⟩
        · rcases List.mem_cons.1 ht with rfl | ht
          · rw [hturn]; rfl
          · rw [hturn] at ht; exact hok t ht
        · show out ++ (Conversion.run config b rest).lines = _
          rw [hlines]
          show _ = (a.turn config (.feed line)).out ++ ((a.turn config (.feed line)).after.turns config _).flatMap _
          rw [hturn]
          rfl
        · show (Conversion.run config b rest).final = _
          rw [hfinal]
          show _ = (a.turn config (.feed line)).after.stateAfter config _
          rw [hturn]
          rfl

end Linewise.Assembler
