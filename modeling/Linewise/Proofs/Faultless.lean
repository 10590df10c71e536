/-
When a conversion cannot fail.

Freezing looks at every reserved word by itself and keeps those that are patterns. The edits look at them between word
boundaries, and that is another text: flags for the whole pattern must stand at its start. `ofText_fault_eq_none_iff`
says what is left: under any settings a conversion reaches its end just if all reserved words can stand between word
boundaries, or no line is a fresh statement. `global_flags_survive_freezing` is a word that freezing keeps and no
statement survives.
-/
import Linewise.Config.Document
import Linewise.Proofs.LayoutSkeleton

namespace Linewise

/-! ## Reserved words -/

theorem reservedPatterns_isOk_iff {entries : List (Text × Text)} :
    (reservedPatterns entries).isOk = true ↔ ∀ e ∈ entries, (Pattern.read (wrappedKey e.1)).isOk = true := by
  induction entries with
  | nil => simp [reservedPatterns, Except.isOk, Except.toBool]
  | cons e rest ih =>
    obtain ⟨key, value⟩ := e
    rw [List.forall_mem_cons, ← ih, reservedPatterns]
    cases Pattern.read (wrappedKey key) with
    | error fault =>
      constructor
      · intro h
        cases h
      · intro h
        cases h.1
    | ok p =>
      cases reservedPatterns rest with
      | error fault =>
        constructor
        · intro h
          cases h
        · intro h
          cases h.2
      | ok ps => exact iff_of_true rfl ⟨rfl, rfl⟩

/-- the reserved words compile if each of them reads as a pattern between word boundaries -/
theorem Tables.compile_iff {t : Tables} :
    t.Compile ↔ ∀ k ∈ t.reservedWords.keys, (Pattern.read (wrappedKey k)).isOk = true := by
  rw [Compile, reservedPatterns_isOk_iff, Table.keys, List.forall_mem_map]

/-- words that do not compile fail on every statement -/
theorem Edit.exists_fault {tables : Tables} (h : ¬ tables.Compile) (t : Text) :
    ∃ fault, Edit.statement tables t = .error fault := by
  rw [Tables.Compile] at h
  cases hwords : reservedPatterns tables.reservedWords.entries with
  | ok ps => rw [hwords] at h; exact absurd rfl h
  | error fault =>
    refine ⟨fault, ?_⟩
    -- the four steps before the reserved words cannot fail
    simp only [statement, Step.all, run, Step.apply, hwords]
    rfl

namespace Assembler

/-! ## Calls -/

/-- a statement that neither continues another nor opens a block string -/
def Event.isFresh : Event → Bool
  | .fresh _ _ _ => true
  | _ => false

/-- a call fails just if it is a fresh statement and the reserved words do not compile -/
theorem fault_event_eq_none_iff {config : Config} {a : Assembler} {c : Call} :
    (a.event config c).fault? = none ↔ config.tables.Compile ∨ (a.event config c).isFresh = false := by
  constructor
  · intro hnone
    by_cases hcompile : config.tables.Compile
    · exact .inl hcompile
    · refine .inr ?_
      cases he : a.event config c with
      | fresh heading continued made =>
        obtain ⟨source, rfl⟩ := exists_fate he
        obtain ⟨fault, hfault⟩ := Edit.exists_fault hcompile source
        rw [he, fate, hfault] at hnone
        cases hnone
      | _ => rfl
  · rintro (hcompile | hfresh)
    · exact fault_event hcompile a c
    · cases he : a.event config c with
      | fresh heading continued made => rw [he] at hfresh; cases hfresh
      | _ => rfl

/-! ## Whole conversions -/

/-- a conversion none of whose calls fails reaches its end -/
theorem fault_eq_none_of_isOk {config : Config} {a : Assembler} {lines : List Text}
    (h : ∀ t ∈ a.turns config (wholeInput lines), t.result.isOk = true) :
    (Conversion.run config a lines).fault = none := by
  induction lines generalizing a with
  | nil => rfl
  | cons line rest ih =>
    have hfirst := h (a.turn config (.feed line)) List.mem_cons_self
    have hrest := ih fun t ht => h t (List.mem_cons_of_mem _ ht)
    rw [Conversion.run]
    simp only [turn, call] at hfirst hrest
    cases hfeed : a.feed config line with
    | mk result b =>
      rw [hfeed] at hfirst hrest
      cases result with
      | error fault => cases hfirst
      | ok out => exact hrest

theorem ofLines_fault_eq_none_iff {config : Config} {lines : List Text} :
    (Conversion.ofLines config lines).fault = none ↔
      config.tables.Compile ∨ ∀ t ∈ history config lines, t.event.isFresh = false := by
  have hturns : (Conversion.ofLines config lines).fault = none ↔ ∀ t ∈ history config lines, t.result.isOk = true :=
    ⟨fun h => (run_of_fault_none h).1, fault_eq_none_of_isOk⟩
  rw [hturns]
  have hturn : ∀ t ∈ history config lines,
      (t.result.isOk = true ↔ config.tables.Compile ∨ t.event.isFresh = false) := by
    intro t ht
    obtain ⟨past, rest, hsplit⟩ := List.append_of_mem ht
    obtain ⟨before, c, after, -, -, rfl⟩ := split_turns hsplit
    rw [turn_isOk_iff, fault_event_eq_none_iff, turn_event]
  by_cases hcompile : config.tables.Compile
  · exact iff_of_true (fun t ht => (hturn t ht).2 (.inl hcompile)) (.inl hcompile)
  · constructor
    · intro hok
      exact .inr fun t ht => ((hturn t ht).1 (hok t ht)).resolve_left hcompile
    · intro h t ht
      exact (hturn t ht).2 (.inr (h.resolve_left hcompile t ht))

/-- **When a conversion reaches its end.** Under any settings, just if every reserved word reads as a pattern between
word boundaries, or none of the lines is a fresh statement. -/
theorem ofText_fault_eq_none_iff {config : Config} {text : Text} :
    (Conversion.ofText config text).fault = none ↔
      (∀ k ∈ config.tables.reservedWords.keys, (Pattern.read (wrappedKey k)).isOk = true) ∨
        ∀ t ∈ history config (Text.lines text), t.event.isFresh = false := by
  rw [Conversion.ofText, ofLines_fault_eq_none_iff, Tables.compile_iff]

/-- a word with a flag for the whole pattern is kept without a warning, and fails between word boundaries -/
theorem global_flags_survive_freezing :
    let data : Value := .table [("reserved_words", .table [("(?i)nil", .text "null")])]
    (Config.resolve data).map (fun c =>
        (c.warnings, c.tables.reservedWords.get? "(?i)nil", (Conversion.ofText c "x = 1\n").fault.map (·.cause))) =
      .ok ([], some "null".toList, some .lateGlobalFlags) := by
  decide +kernel

end Assembler

end Linewise
