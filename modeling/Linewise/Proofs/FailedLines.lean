/-
When a line fails, and what is left of it.

Only a fresh statement is edited, and only the reserved words can stop an edit: they are read in the order of the table, so
it is the first one which is no pattern between word boundaries that is reported (`reservedPatterns_eq_error_iff`). The
margin has then been moved to the line and is not put back; nothing else has been touched yet but the count of the lines
(`feed_eq_error_iff`).

`failing_lines`: from every state, those left by earlier failures included, this is when a call fails and what it leaves.
-/
import Linewise.Proofs.Faultless

namespace Linewise

/-! ## The first word that is no pattern -/

/-- `fault` is that of the first key which does not read as a pattern between word boundaries -/
def FirstFault (keys : List Text) (fault : Pattern.Fault) : Prop :=
  ∃ earlier key later, keys = earlier ++ key :: later ∧ (∀ k ∈ earlier, (Pattern.read (wrappedKey k)).isOk = true) ∧
    Pattern.read (wrappedKey key) = .error fault

theorem not_firstFault_nil {fault : Pattern.Fault} : ¬ FirstFault [] fault := by
  rintro ⟨earlier, key, later, hkeys, -⟩
  cases earlier <;> cases hkeys

theorem firstFault_cons_iff {key : Text} {keys : List Text} {fault : Pattern.Fault} :
    FirstFault (key :: keys) fault ↔ Pattern.read (wrappedKey key) = .error fault ∨
      ((Pattern.read (wrappedKey key)).isOk = true ∧ FirstFault keys fault) := by
  constructor
  · rintro ⟨earlier, k, later, hkeys, hearlier, hfault⟩
    cases earlier with
    | nil =>
      obtain ⟨rfl, -⟩ := List.cons.inj hkeys
      exact .inl hfault
    | cons j earlier =>
      obtain ⟨rfl, hrest⟩ := List.cons.inj hkeys
      obtain ⟨hfirst, hearlier⟩ := List.forall_mem_cons.1 hearlier
      exact .inr ⟨hfirst, earlier, k, later, hrest, hearlier, hfault⟩
  · rintro (hfault | ⟨hfirst, earlier, k, later, rfl, hearlier, hfault⟩)
    · exact ⟨[], key, keys, rfl, by simp, hfault⟩
    · exact ⟨key :: earlier, k, later, rfl, List.forall_mem_cons.2 ⟨hfirst, hearlier⟩, hfault⟩

/-- a table of reserved words fails with the fault of the first word that is no pattern -/
theorem reservedPatterns_eq_error_iff {entries : List (Text × Text)} {fault : Pattern.Fault} :
    reservedPatterns entries = .error fault ↔ FirstFault (entries.map Prod.fst) fault := by
  induction entries with
  | nil => simp [reservedPatterns, not_firstFault_nil]
  | cons e rest ih =>
    obtain ⟨key, value⟩ := e
    rw [List.map_cons, firstFault_cons_iff, ← ih, reservedPatterns]
    cases Pattern.read (wrappedKey key) with
    | error first => simp [Except.isOk, Except.toBool]
    | ok p =>
      cases reservedPatterns rest with
      | error later => simp [Except.isOk, Except.toBool]
      | ok ps => simp

theorem exists_firstFault_iff {keys : List Text} :
    (∃ fault, FirstFault keys fault) ↔ ∃ k ∈ keys, (Pattern.read (wrappedKey k)).isOk = false := by
  induction keys with
  | nil => simp [not_firstFault_nil]
  | cons key keys ih =>
    simp only [firstFault_cons_iff, List.exists_mem_cons_iff, exists_or, exists_and_left, ih]
    cases Pattern.read (wrappedKey key) <;> simp [Except.isOk, Except.toBool]

/-- nothing but the reserved words stops the edit of a statement -/
theorem Edit.statement_eq_error_iff {tables : Tables} {t : Text} {fault : Pattern.Fault} :
    Edit.statement tables t = .error fault ↔ FirstFault tables.reservedWords.keys fault := by
  rw [Table.keys, ← reservedPatterns_eq_error_iff]
  simp only [statement, Step.all, run, Step.apply]
  cases reservedPatterns tables.reservedWords.entries with
  | error first => simp [Except.map]
  | ok ps => simp [Except.map]

namespace Assembler

/-! ## Fresh statements -/

/-- the line is a fresh statement: it is not within a block string, continues no line, is not blank and opens no block
string -/
structure IsFreshLine (layout : Layout) (a : Assembler) (line : Text) : Prop where
  outside : a.context.mode ≠ .inBlockComment
  begins : a.context.mode ≠ .inContinuation
  nonblank : Indent.rest line.chomp ≠ []
  unopened : ∀ d ∈ layout.blockStringDelimiters, ¬ d <+: Indent.rest line.chomp

variable {config : Config} {a b : Assembler} {line : Text} {fault : Pattern.Fault}

theorem openingDelimiter?_eq_none_iff {layout : Layout} {text : Text} :
    openingDelimiter? layout text = none ↔ ∀ d ∈ layout.blockStringDelimiters, ¬ d <+: text := by
  simp only [openingDelimiter?, List.find?_eq_none, Text.startsWith, List.isPrefixOf_iff_prefix]

/-- what a fresh statement is to the assembler -/
theorem event_of_isFreshLine (h : IsFreshLine config.layout a line) :
    let text := Indent.rest line.chomp
    let continued := text.endsWith config.layout.continuationMarker
    let source := statementText config.layout continued text
    a.event config (.feed line) =
      .fresh ⟨Indent.width (Indent.leading line.chomp), isBlockContinuation config.layout.continuationKeywords source⟩
        continued (fate config a.context.scope continued source) := by
  have hempty : (Indent.rest line.chomp).isEmpty = false := by simpa using h.nonblank
  simp only [event, if_neg h.outside, plainEvent, hempty, Bool.false_eq_true, if_false, if_neg h.begins,
    openingDelimiter?_eq_none_iff.2 h.unopened]

theorem isFreshLine_of_event {heading : Heading} {continued : Bool} {made : Fate}
    (h : a.event config (.feed line) = .fresh heading continued made) : IsFreshLine config.layout a line := by
  simp only [event, plainEvent] at h
  split_ifs at h with hinside hblank hcontinues
  split at h
  · cases h
  · rename_i hopen
    exact ⟨hinside, hcontinues, by simpa using hblank, openingDelimiter?_eq_none_iff.1 hopen⟩

/-! ## What a failed line leaves -/

/-- the state after a failed line: one more line was read, and the margin has been moved to it -/
def afterFailure (a : Assembler) (line : Text) : Assembler :=
  { a with
    context :=
      { a.context with
        lineNumber := a.context.lineNumber + 1
        margin :=
          { a.context.margin with
            previous := a.context.margin.current
            current := Indent.width (Indent.leading line.chomp) } } }

theorem fate_eq_failed_iff {scope : Scope} {continued : Bool} {source : Text} :
    fate config scope continued source = .failed fault ↔ FirstFault config.tables.reservedWords.keys fault := by
  rw [← Edit.statement_eq_error_iff (t := source), fate]
  cases Edit.statement config.tables source with
  | error first => simp
  | ok edited =>
    simp only [reduceCtorEq, iff_false]
    split <;> simp

theorem Event.eq_of_fault {e : Event} (h : e.fault? = some fault) :
    ∃ heading continued, e = .fresh heading continued (.failed fault) := by
  cases e with
  | fresh heading continued made =>
    cases made with
    | failed other =>
      obtain rfl := Option.some.inj h
      exact ⟨heading, continued, rfl⟩
    | _ => cases h
  | _ => cases h

theorem Event.outcome_eq_error_iff {unit : Nat} {e : Event} :
    e.outcome unit a = (.error fault, b) ↔ e.fault? = some fault ∧ b = e.after unit a := by
  unfold Event.outcome
  cases e.fault? with
  | none => simp
  | some first => simp [eq_comm]

/-- a line fails just if it is a fresh statement and a reserved word is no pattern; what it gives, and what it leaves -/
theorem feed_eq_error_iff :
    a.feed config line = (.error fault, b) ↔
      IsFreshLine config.layout a line ∧ FirstFault config.tables.reservedWords.keys fault ∧ b = a.afterFailure line := by
  have hcall : a.feed config line = (a.event config (.feed line)).outcome config.layout.indentWidth a :=
    call_eq config a (.feed line)
  rw [hcall, Event.outcome_eq_error_iff]
  constructor
  · rintro ⟨hfault, rfl⟩
    obtain ⟨heading, continued, he⟩ := Event.eq_of_fault hfault
    have hfresh := isFreshLine_of_event he
    have hevent := event_of_isFreshLine hfresh
    -- the two descriptions of the event agree, so the fate that was read off it is the failure
    rw [he] at hevent
    obtain ⟨rfl, rfl, hfate⟩ := Event.fresh.inj hevent
    refine ⟨hfresh, fate_eq_failed_iff.1 hfate.symm, ?_⟩
    rw [he]
    rfl
  · rintro ⟨hfresh, hfault, rfl⟩
    rw [event_of_isFreshLine hfresh, fate_eq_failed_iff.2 hfault]
    exact ⟨rfl, rfl⟩

/-- **When and how a line fails.** In every state, and so after any calls, failed ones included, a line fails just if it is
a fresh statement and some reserved word is no pattern between word boundaries. It fails for the first such word and gives
nothing, and the state is the one before but that one more line was read and the margin was moved to it. The end of the
input never fails. -/
theorem failing_lines (config : Config) (a : Assembler) :
    (∀ line, (∃ fault b, a.feed config line = (.error fault, b)) ↔
      IsFreshLine config.layout a line ∧
        ∃ k ∈ config.tables.reservedWords.keys, (Pattern.read (wrappedKey k)).isOk = false) ∧
    (∀ line fault b, a.feed config line = (.error fault, b) →
      FirstFault config.tables.reservedWords.keys fault ∧ b = a.afterFailure line) ∧
    ∃ lines b, a.call config .finish = (.ok lines, b) := by
  refine ⟨fun line => ?_, fun line fault b h => ?_, _, _, rfl⟩
  · simp only [feed_eq_error_iff, ← exists_firstFault_iff, exists_and_left, exists_eq, and_true]
  · exact (feed_eq_error_iff.1 h).2

/-- a line that fails right after another one that failed, further to the left -/
theorem failing_line_after_failure :
    let config := Config.replacing "(?i)nil" "null"
    let a := stateAfter config {} [.feed "'''doc'''", .feed "", .feed "        x = 1"]
    a.context.margin = ⟨8, 0, 1⟩ ∧
      ∃ fault b, a.feed config "  y = 2" = (.error fault, b) ∧ b.context.margin = ⟨2, 8, 1⟩ ∧
        b.context.lineNumber = 4 ∧ b.context.linesEmitted = 1 := by
  intro config a
  refine ⟨by decide +kernel, ?_⟩
  have hfresh : IsFreshLine config.layout a "  y = 2" := by
    refine ⟨?_, ?_, ?_, ?_⟩ <;> decide +kernel
  have hkey : (Pattern.read (wrappedKey "(?i)nil")).isOk = false := by decide +kernel
  obtain ⟨hfails, hleft, -⟩ := failing_lines config a
  obtain ⟨fault, b, hfeed⟩ := (hfails "  y = 2").2 ⟨hfresh, _, by decide +kernel, hkey⟩
  obtain ⟨-, rfl⟩ := hleft _ _ _ hfeed
  exact ⟨fault, _, hfeed, by decide +kernel, by decide +kernel, by decide +kernel⟩

end Assembler

end Linewise
