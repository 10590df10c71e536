/-
The layout skeleton does not depend on the tables.

Two runs on the same input under settings with one layout and any two sets of tables. The edits of one may empty a line,
rewrite a keyword or rename what the dispatch looks at, and those of the other leave it alone. `Event.bare` is what is
left of an event when that is forgotten. Only the layout, the mode, the open block string and the number of the line
decide it (`bare_event`), and it decides these in turn (`alike_step`): a statement of which nothing is left is not
continued, so it leaves the mode that any statement leaves. The margin is another matter, for only such a statement
leaves it where it was.

`layout_skeleton`: both runs take the same course; if no statement is emptied in either, they release the same lines.
-/
import Linewise.Proofs.Accounting

namespace Linewise

/-- every reserved word reads as a pattern between word boundaries -/
def Tables.Compile (t : Tables) : Prop := (reservedPatterns t.reservedWords.entries).isOk = true

namespace Edit

variable {tables : Tables}

/-- only a reserved word that does not compile can fail -/
theorem Step.exists_apply (h : tables.Compile) (step : Step) (t : Text) : ∃ u, step.apply tables t = .ok u := by
  cases step with
  | reservedWords =>
    rw [Tables.Compile] at h
    rw [apply]
    cases hps : reservedPatterns tables.reservedWords.entries with
    | error fault => rw [hps] at h; cases h
    | ok ps => exact ⟨_, rfl⟩
  | _ => exact ⟨_, rfl⟩

theorem exists_run (h : tables.Compile) (steps : List Step) (t : Text) : ∃ u, run tables steps t = .ok u := by
  induction steps generalizing t with
  | nil => exact ⟨t, rfl⟩
  | cons step rest ih =>
    obtain ⟨u, hu⟩ := step.exists_apply h t
    rw [run, hu]
    exact ih u

end Edit

namespace Assembler

namespace Event

/-- the event as if the edits had left the statement as it is and the dispatch had left it out -/
def bare : Event → Event
  | .fresh heading continued _ => .fresh heading continued (.emitted none {})
  | e => e

/-- a statement of which the edits left nothing -/
def isEmptied : Event → Bool
  | .fresh _ _ .emptied => true
  | _ => false

/-- a line of a block string, or one that continues another -/
def isCopied : Event → Bool
  | .opening _ _ _ => true
  | .inside _ _ _ => true
  | .interior _ _ _ => true
  | _ => false

end Event

/-- the assemblers differ in nothing that decides a bare event -/
structure Alike (a b : Assembler) : Prop where
  mode : a.context.mode = b.context.mode
  lineNumber : a.context.lineNumber = b.context.lineNumber
  warnings : a.context.warnings = b.context.warnings
  blockString : a.blockString = b.blockString

/-- the turns differ at most in what became of a statement -/
structure SameCourse (t u : Turn) : Prop where
  left_ok : t.result.isOk = true
  right_ok : u.result.isOk = true
  bare : t.event.bare = u.event.bare
  copied : t.event.isCopied = true → t.out = u.out
  mode : t.after.context.mode = u.after.context.mode
  warnings : t.after.context.warnings = u.after.context.warnings

/-- the terminators and the released blank lines of a turn -/
def Turn.skeleton (t : Turn) : List OutLine := t.out.filter fun line => !line.isOwn

/-! ## What became of a statement -/

/-- what becomes of a statement is decided by nothing but its edit and its dispatch -/
theorem exists_fate {config : Config} {a : Assembler} {c : Call} {heading : Heading} {continued : Bool} {made : Fate}
    (h : a.event config c = .fresh heading continued made) :
    ∃ source, made = fate config a.context.scope continued source := by
  cases c with
  | finish => cases h
  | feed raw =>
    simp only [event, plainEvent] at h
    split_ifs at h
    split at h
    · cases h
    · injection h with _ hcontinued hmade
      subst hcontinued
      exact ⟨_, hmade.symm⟩

/-- with reserved words that compile no call fails -/
theorem fault_event {config : Config} (hcompile : config.tables.Compile) (a : Assembler) (c : Call) :
    (a.event config c).fault? = none := by
  cases he : a.event config c with
  | fresh heading continued made =>
    obtain ⟨source, rfl⟩ := exists_fate he
    obtain ⟨edited, hedited⟩ := Edit.exists_run hcompile Edit.Step.all source
    rw [fate, Edit.statement, hedited]
    simp only
    split <;> rfl
  | _ => rfl

/-- nothing is left of a statement only if no line continues it -/
theorem continued_of_emptied {config : Config} {a : Assembler} {c : Call} {heading : Heading} {continued : Bool}
    (h : a.event config c = .fresh heading continued .emptied) : continued = false := by
  obtain ⟨source, hmade⟩ := exists_fate h
  rw [fate] at hmade
  split at hmade
  · cases hmade
  · split at hmade
    · rename_i hempty
      simpa using (Bool.and_eq_true_iff.1 hempty).2
    · cases hmade

/-! ## What the bare event decides -/

namespace Event

/-- the mode after a call; here a statement of which nothing is left is like any other that is not continued -/
theorem modeAfter_bare {layout : Layout} {a : Assembler} {e : Event} (hfits : e.Fits layout a) (hok : e.fault? = none)
    (hemptied : ∀ heading continued, e = .fresh heading continued .emptied → continued = false) :
    e.modeAfter a.context.mode = e.bare.modeAfter a.context.mode := by
  cases e with
  | fresh heading continued made =>
    cases made with
    | failed fault => cases hok
    | emptied =>
      obtain rfl := hemptied heading continued rfl
      exact hfits
    | emitted text scope => rfl
  | _ => rfl

theorem blockStringAfter_bare (string : BlockString) (e : Event) :
    e.blockStringAfter string = e.bare.blockStringAfter string := by
  cases e <;> rfl

theorem isFinish_bare (e : Event) : e.isFinish = e.bare.isFinish := by
  cases e <;> rfl

/-- nothing about a copied line is forgotten -/
theorem eq_of_bare {e f : Event} (hcopied : e.isCopied = true) (h : e.bare = f.bare) : e = f := by
  have hbare : e.bare = e := by
    cases e with
    | fresh heading continued made => cases hcopied
    | _ => rfl
  rw [hbare] at h
  cases f with
  | fresh heading continued made => rw [h] at hcopied; cases hcopied
  | _ => exact h

theorem out_of_isCopied (unit : Nat) (m : Margin) {e : Event} (hcopied : e.isCopied = true) :
    e.out unit m = e.own?.toList := by
  cases e with
  | fresh heading continued made => cases hcopied
  | blank => cases hcopied
  | finish mode => cases hcopied
  | _ => rfl

/-- what is released, unless nothing is left of the statement -/
theorem released_bare (unit : Nat) (m : Margin) {e : Event} (hok : e.fault? = none) (hkept : e.isEmptied = false) :
    e.released unit m = e.bare.released unit m := by
  cases e with
  | fresh heading continued made =>
    cases made with
    | failed fault => cases hok
    | emptied => cases hkept
    | emitted text scope => rfl
  | _ => rfl

/-- the margin after a call, unless nothing is left of the statement -/
theorem marginAfter_bare (m : Margin) {e : Event} (hok : e.fault? = none) (hkept : e.isEmptied = false) :
    e.marginAfter m = e.bare.marginAfter m := by
  cases e with
  | fresh heading continued made =>
    cases made with
    | failed fault => cases hok
    | emptied => cases hkept
    | emitted text scope => rfl
  | _ => rfl

end Event

/-! ## Two runs -/

section TwoRuns

variable {c₁ c₂ : Config} {a b : Assembler}

/-- alike assemblers under one layout meet the same bare event -/
theorem bare_event (hlayout : c₁.layout = c₂.layout) (h : Alike a b) (c : Call) :
    (a.event c₁ c).bare = (b.event c₂ c).bare := by
  cases c with
  | finish => rw [event, event, h.mode]
  | feed raw =>
    simp only [event, plainEvent, hlayout, h.mode, h.lineNumber, h.blockString]
    split_ifs
    · rfl
    · rfl
    · rfl
    · split
      · rfl
      · rw [Event.bare, Event.bare]

variable (hlayout : c₁.layout = c₂.layout) (hcompile₁ : c₁.tables.Compile) (hcompile₂ : c₂.tables.Compile)

include hlayout hcompile₁ hcompile₂

/-- **One more call.** Alike assemblers under one layout take the same course, and are alike after it. -/
theorem alike_step (h : Alike a b) (c : Call) :
    SameCourse (a.turn c₁ c) (b.turn c₂ c) ∧ Alike (a.turn c₁ c).after (b.turn c₂ c).after := by
  have hbare := bare_event hlayout h c
  have hok₁ := fault_event hcompile₁ a c
  have hok₂ := fault_event hcompile₂ b c
  have hmode : (a.turn c₁ c).after.context.mode = (b.turn c₂ c).after.context.mode := by
    rw [turn_after, turn_after]
    calc
      (a.event c₁ c).modeAfter a.context.mode = (a.event c₁ c).bare.modeAfter a.context.mode :=
        Event.modeAfter_bare (event_fits c₁ a c) hok₁ fun _ _ => continued_of_emptied
      _ = (b.event c₂ c).bare.modeAfter b.context.mode := by rw [hbare, h.mode]
      _ = (b.event c₂ c).modeAfter b.context.mode :=
        (Event.modeAfter_bare (event_fits c₂ b c) hok₂ fun _ _ => continued_of_emptied).symm
  have hfinish : (a.event c₁ c).isFinish = (b.event c₂ c).isFinish := by
    rw [Event.isFinish_bare, hbare, ← Event.isFinish_bare]
  have hwarnings : (a.turn c₁ c).after.context.warnings = (b.turn c₂ c).after.context.warnings := by
    have hunfinished : a.unfinished = b.unfinished := by
      rw [unfinished, unfinished, h.mode, h.blockString, h.lineNumber]
    rw [turn_after, turn_after, Event.after, Event.after]
    simp only [hfinish, h.warnings, hunfinished]
  refine ⟨⟨?_, ?_, hbare, fun hcopied => ?_, hmode, hwarnings⟩, hmode, ?_, hwarnings, ?_⟩
  · exact turn_isOk_iff.2 hok₁
  · exact turn_isOk_iff.2 hok₂
  · have heq : a.event c₁ c = b.event c₂ c := Event.eq_of_bare hcopied hbare
    rw [turn_event] at hcopied
    rw [turn_out, turn_out, Event.out_of_isCopied _ _ hcopied, Event.out_of_isCopied _ _ (heq ▸ hcopied), heq]
  · rw [turn_after, turn_after, Event.after, Event.after]
    simp only [hfinish, h.lineNumber]
  · rw [turn_after, turn_after, Event.after, Event.after]
    simp only [Event.blockStringAfter_bare _ (a.event c₁ c), hbare, ← Event.blockStringAfter_bare, h.blockString]

/-- one more call of which something is left in both: what is released is the same, and so is the margin after it -/
theorem skeleton_step (h : Alike a b) (hmargin : a.context.margin = b.context.margin) (c : Call)
    (hkept₁ : (a.turn c₁ c).event.isEmptied = false) (hkept₂ : (b.turn c₂ c).event.isEmptied = false) :
    (a.turn c₁ c).skeleton = (b.turn c₂ c).skeleton ∧
      (a.turn c₁ c).after.context.margin = (b.turn c₂ c).after.context.margin := by
  have hbare := bare_event hlayout h c
  have hok₁ := fault_event hcompile₁ a c
  have hok₂ := fault_event hcompile₂ b c
  rw [turn_event] at hkept₁ hkept₂
  refine ⟨?_, ?_⟩
  · rw [Turn.skeleton, Turn.skeleton, turn_out, turn_out, Event.filter_released_out, Event.filter_released_out,
      Event.released_bare _ _ hok₁ hkept₁, Event.released_bare _ _ hok₂ hkept₂, hbare, hlayout, hmargin]
  · rw [turn_after, turn_after]
    show (a.event c₁ c).marginAfter a.context.margin = (b.event c₂ c).marginAfter b.context.margin
    rw [Event.marginAfter_bare _ hok₁ hkept₁, Event.marginAfter_bare _ hok₂ hkept₂, hbare, hmargin]

/-- alike assemblers take the same course from there on -/
theorem sameCourse_turns (h : Alike a b) (calls : List Call) :
    List.Forall₂ SameCourse (a.turns c₁ calls) (b.turns c₂ calls) := by
  induction calls generalizing a b with
  | nil => exact .nil
  | cons c rest ih =>
    obtain ⟨hturn, hafter⟩ := alike_step hlayout hcompile₁ hcompile₂ h c
    exact .cons hturn (ih hafter)

/-- alike assemblers at the same margin release the same lines, as long as no statement is emptied -/
theorem skeleton_turns (h : Alike a b) (hmargin : a.context.margin = b.context.margin) (calls : List Call)
    (hkept₁ : ∀ t ∈ a.turns c₁ calls, t.event.isEmptied = false)
    (hkept₂ : ∀ t ∈ b.turns c₂ calls, t.event.isEmptied = false) :
    (a.turns c₁ calls).map Turn.skeleton = (b.turns c₂ calls).map Turn.skeleton := by
  induction calls generalizing a b with
  | nil => rfl
  | cons c rest ih =>
    obtain ⟨-, hafter⟩ := alike_step hlayout hcompile₁ hcompile₂ h c
    obtain ⟨hskeleton, hmargin'⟩ := skeleton_step hlayout hcompile₁ hcompile₂ h hmargin c
      (hkept₁ _ List.mem_cons_self) (hkept₂ _ List.mem_cons_self)
    have hlater₁ : ∀ t ∈ (a.turn c₁ c).after.turns c₁ rest, t.event.isEmptied = false := by
      intro t ht
      exact hkept₁ t (List.mem_cons_of_mem _ ht)
    have hlater₂ : ∀ t ∈ (b.turn c₂ c).after.turns c₂ rest, t.event.isEmptied = false := by
      intro t ht
      exact hkept₂ t (List.mem_cons_of_mem _ ht)
    rw [turns, turns, List.map_cons, List.map_cons, hskeleton, ih hafter hmargin' hlater₁ hlater₂]

end TwoRuns

/-- **The layout skeleton does not depend on the tables.** Make the same calls on two fresh assemblers, under settings
with one layout and any tables that compile. After every call both are in the same mode and have given the same
warnings, and the lines of block strings and those that continue others come out alike. If no statement is emptied in
either, each call gives the same terminators and releases the same blank lines. -/
theorem layout_skeleton {c₁ c₂ : Config} (hlayout : c₁.layout = c₂.layout) (hcompile₁ : c₁.tables.Compile)
    (hcompile₂ : c₂.tables.Compile) (calls : List Call) :
    List.Forall₂ SameCourse (turns c₁ {} calls) (turns c₂ {} calls) ∧
      ((∀ t ∈ turns c₁ {} calls, t.event.isEmptied = false) →
        (∀ t ∈ turns c₂ {} calls, t.event.isEmptied = false) →
        (turns c₁ {} calls).map Turn.skeleton = (turns c₂ {} calls).map Turn.skeleton) := by
  have hstart : Alike {} {} := ⟨rfl, rfl, rfl, rfl⟩
  exact ⟨sameCourse_turns hlayout hcompile₁ hcompile₂ hstart calls,
    skeleton_turns hlayout hcompile₁ hcompile₂ hstart rfl calls⟩

/-- one run replaces the body of a branch, the other the keyword that continues it -/
theorem skeleton_pass_and_elif :
    let c₁ := Config.replacing "pass" "nil"
    let c₂ := Config.replacing "elif" "elsif"
    let calls : List Call :=
      [.feed "if a:", .feed "    pass", .feed "elif b:", .feed "    '''text", .feed "  '''", .feed "",
        .feed "    x = 1 + \\", .feed "  2", .feed "c()", .finish]
    c₁.layout = c₂.layout ∧ c₁.tables.Compile ∧ c₂.tables.Compile ∧
      List.Forall₂ SameCourse (turns c₁ {} calls) (turns c₂ {} calls) ∧
      (turns c₁ {} calls).map Turn.skeleton = (turns c₂ {} calls).map Turn.skeleton := by
  intro c₁ c₂ calls
  have hlayout : c₁.layout = c₂.layout := by decide +kernel
  have hcompile₁ : c₁.tables.Compile := by unfold Tables.Compile; decide +kernel
  have hcompile₂ : c₂.tables.Compile := by unfold Tables.Compile; decide +kernel
  have hkept₁ : ∀ t ∈ turns c₁ {} calls, t.event.isEmptied = false := by decide +kernel
  have hkept₂ : ∀ t ∈ turns c₂ {} calls, t.event.isEmptied = false := by decide +kernel
  obtain ⟨hcourse, hskeleton⟩ := layout_skeleton hlayout hcompile₁ hcompile₂ calls
  exact ⟨hlayout, hcompile₁, hcompile₂, hcourse, hskeleton hkept₁ hkept₂⟩

end Assembler

end Linewise
