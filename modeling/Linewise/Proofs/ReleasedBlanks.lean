/-
What stands after a released blank line.

A call gives terminators, then the blank lines that it releases, then the own line of its input line (`turn_out_eq`). So a
blank line with a terminator directly after it comes from one call and the terminator from another; `Junction` is such a
place in a history, with the calls between the two, which give nothing. The first call has no own line: it is the end of
an input, or a statement that the dispatch leaves out. Calls that give nothing do not indent the margin, but for such a
statement (`current_of_silent`), and after the end of an input it stands at zero.

`junction_at_suppressed`: whatever the calls, a terminator comes directly after a blank line only if a statement is left
out at the call that releases the blank line, or after it if that is the end of an input; and it never does in a conversion
in which each statement that is left out is followed by one that is not less indented. `blank_of_ended_input` is an input
whose last blank line comes to stand before the first terminator of the next.
-/
import Linewise.Proofs.Accounting

namespace Linewise.Assembler

/-- a place in the output of a history, after the lines `before`, where a terminator stands directly after a blank line -/
structure Junction (ts : List Turn) (before : List OutLine) (width depth : Nat) where
  past : List Turn
  /-- the call that releases the blank line, as the last line it gives -/
  releasing : Turn
  /-- calls that give nothing -/
  between : List Turn
  /-- the call that gives the terminator, as its first line -/
  closing : Turn
  later : List Turn
  split : ts = past ++ releasing :: (between ++ closing :: later)
  blank : ∃ first, releasing.out = first ++ [.blank width] ∧ before = past.flatMap Turn.out ++ first
  silent : ∀ t ∈ between, t.out = []
  terminator : ∃ rest, closing.out = .terminator depth :: rest

/-- each statement that is left out is followed by one, and by one that is not less indented -/
def NoDedentAfterSuppressed : List Turn → Prop
  | [] => True
  | t :: later =>
    (t.event.isSuppressed = true → ∃ next ∈ (headings later).head?, releaseWidth [t] ≤ next.width) ∧
      NoDedentAfterSuppressed later

instance NoDedentAfterSuppressed.decidable : (ts : List Turn) → Decidable (NoDedentAfterSuppressed ts)
  | [] => inferInstanceAs (Decidable True)
  | _ :: later =>
    have : Decidable (NoDedentAfterSuppressed later) := NoDedentAfterSuppressed.decidable later
    inferInstanceAs (Decidable (_ ∧ _))

theorem NoDedentAfterSuppressed.of_append {past : List Turn} {t : Turn} {later : List Turn}
    (h : NoDedentAfterSuppressed (past ++ t :: later)) (ht : t.event.isSuppressed = true) :
    ∃ next, (headings later).head? = some next ∧ releaseWidth [t] ≤ next.width := by
  induction past with
  | nil => exact h.1 ht
  | cons _ past ih => exact ih h.2

/-! ## The lines of one call -/

/-- terminators first, then the blank lines that are released, then the line's own line -/
theorem turn_out_eq (config : Config) (a : Assembler) (c : Call) :
    ∃ (depths : List Nat) (count width : Nat), (a.turn config c).out =
      depths.map .terminator ++ List.replicate count (.blank width) ++ (a.turn config c).event.own?.toList := by
  obtain ⟨depths, hreleased⟩ :=
    (a.event config c).exists_released_eq config.layout.indentWidth a.context.margin
  exact ⟨depths, _, _, by rw [turn_out, Event.out, hreleased]; rfl⟩

theorem not_isTerminator_of_own {e : Event} {line : OutLine} (h : line ∈ e.own?.toList) :
    line.isTerminator = false := by
  have hown := Event.isOwn_of_own h
  cases line with
  | terminator depth => cases hown
  | _ => rfl

/-- within one call only terminators come before a terminator -/
theorem pairwise_isTerminator (config : Config) (a : Assembler) (c : Call) :
    (a.turn config c).out.Pairwise fun x y => y.isTerminator = true → x.isTerminator = true := by
  obtain ⟨depths, count, width, hout⟩ := turn_out_eq config a c
  have hmore : ∀ y ∈ List.replicate count (OutLine.blank width) ++ (a.turn config c).event.own?.toList,
      y.isTerminator = false := by
    intro y hy
    rcases List.mem_append.1 hy with hy | hy
    · rw [List.eq_of_mem_replicate hy]
      rfl
    · exact not_isTerminator_of_own hy
  rw [hout, List.append_assoc, List.pairwise_append]
  refine ⟨?_, ?_, fun x _ y hy h => ?_⟩
  · rw [List.pairwise_map]
    exact List.pairwise_of_forall fun _ _ _ => rfl
  · refine List.Pairwise.imp_of_mem (R := fun _ _ => True) (fun _ hy _ h => ?_) (List.pairwise_of_forall fun _ _ => trivial)
    rw [hmore _ hy] at h
    cases h
  · rw [hmore y hy] at h
    cases h

/-- a statement that is not emptied has an own line, unless the dispatch leaves it out -/
theorem isSuppressed_of_own {e : Event} {heading : Heading} (hheading : e.heading? = some heading)
    (hown : e.own? = none) : e.isSuppressed = true := by
  obtain ⟨continued, text, scope, rfl⟩ := Event.eq_of_heading hheading
  cases text with
  | none => rfl
  | some text => cases hown

/-- a call whose last line is a blank line is the end of the input, or the dispatch leaves its statement out -/
theorem releasing_of_blank {config : Config} {a : Assembler} {c : Call} {first : List OutLine} {width : Nat}
    (h : (a.turn config c).out = first ++ [.blank width]) :
    (a.turn config c).event.isSuppressed = true ∨ (a.turn config c).event.isFinish = true := by
  rw [turn_out, Event.out] at h
  rw [turn_event]
  have hown : (a.event config c).own? = none := by
    cases hown : (a.event config c).own? with
    | none => rfl
    | some line =>
      rw [hown, Option.toList_some] at h
      obtain rfl := List.singleton_inj.1 (List.append_inj_right' h rfl)
      cases Event.isOwn_of_own (Option.mem_toList.2 hown)
  rw [hown, Option.toList_none, List.append_nil] at h
  have hreleases : (a.event config c).releases = true := by
    by_contra hkept
    rw [Event.released_of_releases_eq_false (by simpa using hkept)] at h
    simp at h
  rw [Event.releases_eq, Bool.or_eq_true, Option.isSome_iff_exists] at hreleases
  rcases hreleases with hfinish | ⟨heading, hheading⟩
  · exact .inr hfinish
  · exact .inl (isSuppressed_of_own hheading hown)

theorem mem_released_of_terminator {config : Config} {a : Assembler} {c : Call} {depth : Nat}
    (h : .terminator depth ∈ (a.turn config c).out) :
    .terminator depth ∈ (a.event config c).released config.layout.indentWidth a.context.margin := by
  rw [turn_out, Event.out, List.mem_append] at h
  refine h.resolve_right fun hown => ?_
  cases not_isTerminator_of_own hown

theorem releases_of_terminator {config : Config} {a : Assembler} {c : Call} {depth : Nat}
    (h : .terminator depth ∈ (a.turn config c).out) : (a.turn config c).event.releases = true := by
  by_contra hkept
  rw [turn_event] at hkept
  have hreleased := mem_released_of_terminator h
  rw [Event.released_of_releases_eq_false (by simpa using hkept)] at hreleased
  cases hreleased

/-- a terminator comes out only on the way back from a deeper statement -/
theorem lt_of_terminator {config : Config} {a : Assembler} {c : Call} {depth : Nat}
    (hrest : a.context.margin.previous = a.context.margin.current)
    (h : .terminator depth ∈ (a.turn config c).out) :
    releaseWidth [a.turn config c] < a.context.margin.current := by
  have hreleased := mem_released_of_terminator h
  rw [releaseWidth_cons, turn_event]
  -- where nothing closes there are only blank lines
  have hcloses : ∀ continues m, .terminator depth ∈ (closeBlocks config.layout.indentWidth continues m).1 →
      m.current < m.previous := by
    intro continues m hm
    by_contra hle
    rw [closeBlocks, closingDepths_of_le _ _ (Nat.le_of_not_lt hle)] at hm
    simp at hm
  generalize a.event config c = e at hreleased
  cases e with
  | fresh heading continued made =>
    cases made with
    | emitted text scope => exact hcloses _ _ hreleased
    | _ => cases hreleased
  | finish mode =>
    have hlt : 0 < a.context.margin.previous := hcloses _ _ hreleased
    rw [hrest] at hlt
    exact hlt
  | _ => cases hreleased

/-! ## Calls that give nothing -/

/-- a call that does not fail leaves the margin at rest -/
theorem rest_turn {config : Config} {a : Assembler} {c : Call}
    (hrest : a.context.margin.previous = a.context.margin.current) (hok : (a.turn config c).result.isOk = true) :
    (a.turn config c).after.context.margin.previous = (a.turn config c).after.context.margin.current := by
  rw [turn_after]
  show ((a.event config c).marginAfter _).previous = ((a.event config c).marginAfter _).current
  rw [Event.marginAfter_eq hrest (turn_isOk_iff.1 hok)]

theorem rest_stateAfter {config : Config} {a : Assembler} (calls : List Call)
    (hrest : a.context.margin.previous = a.context.margin.current)
    (hok : ∀ t ∈ a.turns config calls, t.result.isOk = true) :
    (a.stateAfter config calls).context.margin.previous = (a.stateAfter config calls).context.margin.current := by
  induction calls generalizing a with
  | nil => exact hrest
  | cons c rest ih =>
    obtain ⟨hfirst, hlater⟩ := List.forall_mem_cons.1 hok
    exact ih (rest_turn hrest hfirst) hlater

/-- a call that gives nothing does not indent the margin, unless the dispatch leaves its statement out -/
theorem current_of_silent {config : Config} {a : Assembler} {c : Call}
    (hrest : a.context.margin.previous = a.context.margin.current) (hok : (a.turn config c).result.isOk = true)
    (hsilent : (a.turn config c).out = []) (hshown : (a.turn config c).event.isSuppressed = false) :
    (a.turn config c).event.heading? = none ∧
      (a.turn config c).after.context.margin.current ≤ a.context.margin.current := by
  have hheading : (a.event config c).heading? = none := by
    cases hheading : (a.event config c).heading? with
    | none => rfl
    | some heading =>
      rw [turn_out, Event.out, List.append_eq_nil_iff, Option.toList_eq_nil_iff] at hsilent
      rw [turn_event, isSuppressed_of_own hheading hsilent.2] at hshown
      cases hshown
  refine ⟨hheading, ?_⟩
  rw [turn_after]
  show ((a.event config c).marginAfter _).current ≤ _
  rw [Event.marginAfter_eq hrest (turn_isOk_iff.1 hok), hheading]
  cases (a.event config c).isFinish
  · exact Nat.le_refl _
  · exact Nat.zero_le _

theorem current_of_silents {config : Config} {a : Assembler} (calls : List Call)
    (hrest : a.context.margin.previous = a.context.margin.current)
    (hok : ∀ t ∈ a.turns config calls, t.result.isOk = true)
    (hsilent : ∀ t ∈ a.turns config calls, t.out = [] ∧ t.event.isSuppressed = false) :
    headings (a.turns config calls) = [] ∧
      (a.stateAfter config calls).context.margin.current ≤ a.context.margin.current := by
  induction calls generalizing a with
  | nil => exact ⟨rfl, Nat.le_refl _⟩
  | cons c rest ih =>
    obtain ⟨hfirst, hlater⟩ := List.forall_mem_cons.1 hok
    obtain ⟨⟨hout, hshown⟩, hmore⟩ := List.forall_mem_cons.1 hsilent
    obtain ⟨hheading, hle⟩ := current_of_silent hrest hfirst hout hshown
    obtain ⟨hheadings, hle'⟩ := ih (rest_turn hrest hfirst) hlater hmore
    refine ⟨?_, hle'.trans hle⟩
    rw [turns, headings_cons, hheading, hheadings]
    rfl

/-- **Only a deeper statement makes a terminator due.** If after a call come calls that give nothing, and leave out no
statement, and then a terminator, then the first call leaves the margin deeper than the terminator's call stands. -/
theorem lt_of_silent_between {config : Config} {a : Assembler} {calls : List Call} {past quiet later : List Turn}
    {t u : Turn} {depth : Nat} (hsplit : a.turns config calls = past ++ t :: (quiet ++ u :: later))
    (hok : ∀ s ∈ a.turns config calls, s.result.isOk = true)
    (hrest : a.context.margin.previous = a.context.margin.current)
    (hquiet : ∀ s ∈ quiet, s.out = [] ∧ s.event.isSuppressed = false) (hterminator : .terminator depth ∈ u.out) :
    headings quiet = [] ∧ releaseWidth [u] < t.after.context.margin.current := by
  rw [hsplit] at hok
  obtain ⟨before, after, rfl, rfl, hafter⟩ := turns_eq_append hsplit
  cases after with
  | nil => cases hafter
  | cons c after =>
    injection hafter with ht hmore
    subst ht
    obtain ⟨silent, after, rfl, rfl, hu⟩ := turns_eq_append hmore.symm
    cases after with
    | nil => cases hu
    | cons d after =>
      injection hu with hu _
      subst hu
      have hbefore := rest_stateAfter before hrest fun s hs => hok s (List.mem_append_left _ hs)
      have hturn := rest_turn (c := c) hbefore (hok _ (List.mem_append_right _ List.mem_cons_self))
      have hmem : ∀ s ∈ turns config ((stateAfter config a before).turn config c).after silent, s.result.isOk = true :=
        fun s hs => hok s (List.mem_append_right _ (List.mem_cons_of_mem _ (List.mem_append_left _ hs)))
      obtain ⟨hheadings, hle⟩ := current_of_silents silent hturn hmem hquiet
      exact ⟨hheadings, (lt_of_terminator (rest_stateAfter silent hturn hmem) hterminator).trans_le hle⟩

/-! ## Whole outputs -/

/-- a line that comes out of a history comes out of one of its calls -/
theorem split_out {ts : List Turn} {before after : List OutLine} {line : OutLine}
    (h : ts.flatMap Turn.out = before ++ line :: after) :
    ∃ past t later first rest, ts = past ++ t :: later ∧ t.out = first ++ line :: rest ∧
      before = past.flatMap Turn.out ++ first ∧ after = rest ++ later.flatMap Turn.out := by
  induction ts generalizing before with
  | nil => simp at h
  | cons t ts ih =>
    rw [List.flatMap_cons, List.append_eq_append_iff] at h
    rcases h with ⟨more, rfl, hts⟩ | ⟨rest, hout, hrest⟩
    · obtain ⟨past, u, later, first, rest, rfl, hout, rfl, rfl⟩ := ih hts
      exact ⟨t :: past, u, later, first, rest, rfl, hout, (List.append_assoc _ _ _).symm, rfl⟩
    · cases rest with
      | nil =>
        -- the line is the first one that comes out of the calls after `t`
        have hfront : ts.flatMap Turn.out = [] ++ line :: after := hrest.symm
        obtain ⟨past, u, later, first, rest, rfl, hout', hfirst, rfl⟩ := ih hfront
        refine ⟨t :: past, u, later, first, rest, rfl, hout', ?_, rfl⟩
        rw [List.flatMap_cons, List.append_assoc, ← hfirst, hout, List.append_nil, List.append_nil]
      | cons x rest =>
        injection hrest with hline hrest
        subst hline
        exact ⟨[], t, ts, before, rest, rfl, hout, rfl, hrest⟩

/-- a terminator directly after a blank line comes out of a later call -/
theorem nonempty_junction {config : Config} {a : Assembler} {calls : List Call} {before after : List OutLine}
    {width depth : Nat}
    (h : (a.turns config calls).flatMap Turn.out = before ++ .blank width :: .terminator depth :: after) :
    Nonempty (Junction (a.turns config calls) before width depth) := by
  obtain ⟨past, t, later, first, rest, hsplit, hout, hbefore, hafter⟩ := split_out h
  cases rest with
  | cons line rest =>
    -- the same call cannot give both
    injection hafter with hline _
    subst hline
    obtain ⟨calls₁, c, calls₂, -, -, rfl⟩ := split_turns hsplit
    have horder := pairwise_isTerminator config (a.stateAfter config calls₁) c
    rw [hout] at horder
    have hblank := (List.pairwise_cons.1 (List.pairwise_append.1 horder).2.1).1 _ List.mem_cons_self rfl
    cases hblank
  | nil =>
    have hfront : later.flatMap Turn.out = [] ++ .terminator depth :: after := hafter.symm
    obtain ⟨between, u, later, first', rest, rfl, hout', hnone, -⟩ := split_out hfront
    obtain ⟨hsilent, rfl⟩ := List.append_eq_nil_iff.1 hnone.symm
    exact ⟨past, t, between, u, later, hsplit, ⟨first, hout, hbefore⟩, List.flatMap_eq_nil_iff.1 hsilent, rest, hout'⟩

/-- the last statement of a list of calls that is left out -/
theorem exists_last_suppressed {ts : List Turn} (h : ∃ t ∈ ts, t.event.isSuppressed = true) :
    ∃ past t later, ts = past ++ t :: later ∧ t.event.isSuppressed = true ∧
      ∀ s ∈ later, s.event.isSuppressed = false := by
  induction ts with
  | nil => simp at h
  | cons t ts ih =>
    by_cases hlater : ∃ s ∈ ts, s.event.isSuppressed = true
    · obtain ⟨past, s, later, rfl, hs, hnone⟩ := ih hlater
      exact ⟨t :: past, s, later, rfl, hs, hnone⟩
    · have hnone : ∀ s ∈ ts, s.event.isSuppressed = false := by simpa using hlater
      obtain ⟨s, hs, hsuppressed⟩ := h
      rcases List.mem_cons.1 hs with rfl | hs
      · exact ⟨[], s, ts, rfl, hsuppressed, hnone⟩
      · rw [hnone s hs] at hsuppressed
        cases hsuppressed

/-- the end of the input is the last call of a conversion -/
theorem later_eq_nil_of_isFinish {config : Config} {a : Assembler} {lines : List Text} {past later : List Turn} {t : Turn}
    (h : a.turns config (wholeInput lines) = past ++ t :: later) (ht : t.event.isFinish = true) : later = [] := by
  induction lines generalizing a past with
  | nil =>
    cases past with
    | nil =>
      injection h with _ h
      exact h.symm
    | cons s past => injection h with _ h; cases past <;> cases h
  | cons line rest ih =>
    cases past with
    | nil =>
      injection h with hline _
      rw [← hline, turn_event, event_feed_isFinish] at ht
      cases ht
    | cons s past =>
      injection h with _ h
      exact ih h

section Junctions

variable {config : Config} {before : List OutLine} {width depth : Nat}

/-- the blank line of a junction is released by a statement that is left out, or by the end of an input with such a
statement after it -/
theorem Junction.suppressed {calls : List Call} (j : Junction (turns config {} calls) before width depth)
    (hok : ∀ t ∈ turns config {} calls, t.result.isOk = true) :
    j.releasing.event.isSuppressed = true ∨
      j.releasing.event.isFinish = true ∧ ∃ t ∈ j.between, t.event.isSuppressed = true := by
  obtain ⟨past, releasing, between, closing, later, hsplit, ⟨first, hblank, -⟩, hsilent, rest, hterminator⟩ := j
  obtain ⟨calls₁, c, calls₂, -, -, rfl⟩ := split_turns hsplit
  refine (releasing_of_blank hblank).imp_right fun hfinish => ⟨hfinish, ?_⟩
  by_contra hnone
  have hquiet : ∀ t ∈ between, t.out = [] ∧ t.event.isSuppressed = false :=
    fun t ht => ⟨hsilent t ht, by simpa using fun h => hnone ⟨t, ht, h⟩⟩
  have hlt := (lt_of_silent_between hsplit hok rfl hquiet (hterminator ▸ List.mem_cons_self)).2
  -- the end of an input leaves the margin at zero
  rw [turn_event] at hfinish
  rw [turn_after] at hlt
  generalize (stateAfter config {} calls₁).event config c = e at hfinish hlt
  cases e with
  | finish mode => exact absurd hlt (Nat.not_lt_zero _)
  | _ => cases hfinish

/-- a statement that is left out leaves the margin at its width -/
theorem current_of_suppressed {a : Assembler} {c : Call} (h : (a.turn config c).event.isSuppressed = true) :
    (a.turn config c).after.context.margin.current = releaseWidth [a.turn config c] := by
  rw [turn_event] at h
  rw [turn_after, releaseWidth_cons, turn_event]
  generalize a.event config c = e at h
  cases e with
  | fresh heading continued made =>
    cases made with
    | emitted text scope => rfl
    | _ => cases h
  | _ => cases h

/-- the last statement that is left out before the terminator of a junction: after it calls give nothing -/
theorem Junction.split_at_last {ts : List Turn} (j : Junction ts before width depth)
    (h : ∃ t ∈ j.releasing :: j.between, t.event.isSuppressed = true) :
    ∃ earlier t quiet, ts = earlier ++ t :: (quiet ++ j.closing :: j.later) ∧ t.event.isSuppressed = true ∧
      ∀ s ∈ quiet, s.out = [] ∧ s.event.isSuppressed = false := by
  obtain ⟨earlier, t, quiet, hbetween, ht, hshown⟩ := exists_last_suppressed h
  refine ⟨j.past ++ earlier, t, quiet, j.split.trans ?_, ht, fun s hs => ⟨j.silent s ?_, hshown s hs⟩⟩
  · rw [← List.cons_append, hbetween]
    simp only [List.append_assoc, List.cons_append]
  · cases earlier with
    | nil =>
      injection hbetween with _ hbetween
      exact hbetween ▸ hs
    | cons _ earlier =>
      injection hbetween with _ hbetween
      rw [hbetween]
      exact List.mem_append_right _ (List.mem_cons_of_mem _ hs)

/-- the terminator of a junction comes from a statement, or from the end of the input -/
theorem Junction.closing_isFinish {calls : List Call} (j : Junction (turns config {} calls) before width depth)
    (h : j.closing.event.heading? = none) : j.closing.event.isFinish = true := by
  obtain ⟨rest, hterminator⟩ := j.terminator
  have hmem : .terminator depth ∈ j.closing.out := hterminator ▸ List.mem_cons_self
  have hsplit : turns config {} calls = (j.past ++ j.releasing :: j.between) ++ j.closing :: j.later :=
    j.split.trans (by rw [List.append_assoc, List.cons_append])
  obtain ⟨calls₁, c, calls₂, -, -, hturn⟩ := split_turns hsplit
  have hreleases : j.closing.event.releases = true := by
    rw [hturn] at hmem ⊢
    exact releases_of_terminator hmem
  rwa [Event.releases_eq, h, Option.isSome_none, Bool.or_false] at hreleases

/-- there is no junction in a conversion in which each statement that is left out is followed by one that is not less
indented -/
theorem isEmpty_junction {lines : List Text} (hok : ∀ t ∈ history config lines, t.result.isOk = true)
    (hblocks : NoDedentAfterSuppressed (history config lines)) :
    IsEmpty (Junction (history config lines) before width depth) := by
  refine ⟨fun j => ?_⟩
  have hsuppressed : ∃ t ∈ j.releasing :: j.between, t.event.isSuppressed = true := by
    rcases j.suppressed hok with h | ⟨hfinish, -⟩
    · exact ⟨_, List.mem_cons_self, h⟩
    · have hlast := later_eq_nil_of_isFinish j.split hfinish
      simp at hlast
  obtain ⟨earlier, t, quiet, hsplit, ht, hquiet⟩ := j.split_at_last hsuppressed
  obtain ⟨rest, hterminator⟩ := j.terminator
  obtain ⟨hheadings, hlt⟩ := lt_of_silent_between hsplit hok rfl hquiet (hterminator ▸ List.mem_cons_self)
  have hcurrent : t.after.context.margin.current = releaseWidth [t] := by
    obtain ⟨calls₁, c, calls₂, -, -, rfl⟩ := split_turns hsplit
    exact current_of_suppressed ht
  rw [hcurrent, releaseWidth_cons] at hlt
  rw [hsplit] at hblocks
  obtain ⟨next, hnext, hle⟩ := hblocks.of_append ht
  rw [headings, List.filterMap_append, ← headings, ← headings, hheadings, List.nil_append, headings_cons] at hnext
  cases hclosing : j.closing.event.heading? with
  | some heading =>
    rw [hclosing] at hnext hlt
    obtain rfl := Option.some.inj hnext
    exact absurd hlt (Nat.not_lt.2 hle)
  | none =>
    -- the terminator comes at the end of the input, and no statement comes after that
    have hwhole : history config lines = (earlier ++ t :: quiet) ++ j.closing :: j.later :=
      hsplit.trans (by rw [List.append_assoc, List.cons_append])
    have hlast : j.later = [] := later_eq_nil_of_isFinish hwhole (j.closing_isFinish hclosing)
    rw [hclosing, hlast] at hnext
    cases hnext

end Junctions

/-! ## Blank lines and terminators -/

/-- **No blank line stands between a block and its terminator.** Make any calls on a fresh assembler of which none fails.
Each of them gives terminators, then the blank lines that it releases, then its line's own line. Where a terminator comes
directly after a blank line, the call that releases the blank line leaves out its statement, or it is the end of an input
and a statement is left out between it and the terminator. In a conversion in which each statement that is left out is
followed by one that is not less indented, no terminator comes directly after a blank line. -/
theorem junction_at_suppressed {config : Config} {calls : List Call}
    (hok : ∀ t ∈ turns config {} calls, t.result.isOk = true) :
    (∀ t ∈ turns config {} calls, ∃ (depths : List Nat) (count width : Nat),
      t.out = depths.map .terminator ++ List.replicate count (.blank width) ++ t.event.own?.toList) ∧
    (∀ before after width depth,
      (turns config {} calls).flatMap Turn.out = before ++ .blank width :: .terminator depth :: after →
      ∃ j : Junction (turns config {} calls) before width depth,
        j.releasing.event.isSuppressed = true ∨
          j.releasing.event.isFinish = true ∧ ∃ t ∈ j.between, t.event.isSuppressed = true) ∧
    ∀ lines, calls = wholeInput lines → NoDedentAfterSuppressed (turns config {} calls) →
      ∀ before after width depth,
        (turns config {} calls).flatMap Turn.out ≠ before ++ .blank width :: .terminator depth :: after := by
  refine ⟨fun t ht => ?_, fun before after width depth h => ?_, ?_⟩
  · obtain ⟨past, later, hsplit⟩ := List.append_of_mem ht
    obtain ⟨calls₁, c, calls₂, -, -, rfl⟩ := split_turns hsplit
    exact turn_out_eq config _ c
  · obtain ⟨j⟩ := nonempty_junction h
    exact ⟨j, j.suppressed hok⟩
  · rintro lines rfl hblocks before after width depth h
    obtain ⟨j⟩ := nonempty_junction h
    exact (isEmpty_junction hok hblocks).false j

/-- a class, blank lines before a decorator and before a less indented statement, and one at the end -/
theorem no_junction_after_decorator :
    let config := Config.replacing "pass" ""
    let lines : List Text :=
      ["class A:", "", "    @staticmethod", "", "    def f(x):", "        '''text", "  '''", "", "        return x", "",
        "def g():", "    y \\", "  z", ""]
    (∀ t ∈ turns config {} (wholeInput lines), t.result.isOk = true) ∧
      NoDedentAfterSuppressed (turns config {} (wholeInput lines)) ∧
      ∀ before after width depth, (turns config {} (wholeInput lines)).flatMap Turn.out ≠
        before ++ .blank width :: .terminator depth :: after := by
  intro config lines
  have hok : ∀ t ∈ turns config {} (wholeInput lines), t.result.isOk = true := by decide +kernel
  have hblocks : NoDedentAfterSuppressed (turns config {} (wholeInput lines)) := by decide +kernel
  exact ⟨hok, hblocks, (junction_at_suppressed hok).2.2 lines rfl hblocks⟩

/-- the end of the first input releases its blank line; the second begins with a decorator, which gives nothing and is
indented, and so the first line after the blank one is a terminator -/
theorem blank_of_ended_input :
    let config := Config.standard
    let ts := turns config {} [.feed "", .finish, .feed "    @staticmethod", .feed "x"]
    config.IsFrozen ∧ (∀ t ∈ ts, t.result.isOk = true) ∧
      ts.map Turn.out = [[], [.blank 0], [], [.terminator 0, .statement 0 "x"]] ∧
      ts.map (fun t => t.event.isSuppressed) = [false, false, true, false] := by
  intro config ts
  have hfrozen : config.IsFrozen := ⟨Draft.standard, by decide +kernel⟩
  exact ⟨hfrozen, by decide +kernel, by decide +kernel, by decide +kernel⟩

end Linewise.Assembler
