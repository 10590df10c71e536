/-
Freezing twice.

Sanitizing compares each value with what can work, drops it or keeps it, and adds one warning for each value it drops;
the empty delimiters of a list go together, with one warning (`sanitizes_sanitize`). What it leaves is `Settled`, so a
second time nothing is dropped and nothing is warned of, and the same holds of settings in force that are thawed.

`freeze_stable` puts this together for every draft. Two things keep a draft from being frozen. A unit below one may be too
long for the warning about it; then sanitizing stops there and has dropped nothing. And a reserved word may be written as
a pattern is, and ask for more than patterns can do: such a word is not dropped, and `incompatible_flags_stop_freezing` is
a draft with nothing else in it.
-/
import Linewise.Proofs.Refreezing
import Mathlib.Data.List.Forall2

namespace Linewise

/-- settings in force every value of which can work -/
structure Config.Works (c : Config) : Prop where
  one_le_indentWidth : 1 ≤ c.layout.indentWidth
  continuationMarker_ne_nil : c.layout.continuationMarker ≠ []
  delimiter_ne_nil : ∀ e ∈ c.layout.blockStringDelimiters, e ≠ []
  isPattern : ∀ k ∈ c.tables.reservedWords.keys, (Pattern.read k).isOk = true

/-! ## What is dropped -/

/-- values of a draft that may be dropped; the delimiters that a list loses are taken together -/
inductive Dropped where
  | indentWidth (n : Int)
  | continuationMarker (m : Text)
  | delimiters (ds : List Text)
  | reservedWord (k : Text)
deriving DecidableEq, Repr

/-- the warning is the one for the dropped value, and the value cannot work -/
inductive Dropped.Warned : Dropped → Warning → Prop where
  | indentWidth (n : Int) (h : n < 1) :
    Warned (.indentWidth n) { message := "Ignoring non-positive [layout].indent_width: " ++ Text.ofInt n }
  | continuationMarker : Warned (.continuationMarker []) { message := "Ignoring empty [layout].continuation_marker" }
  | delimiters (ds : List Text) (h : ∀ e ∈ ds, e = []) :
    Warned (.delimiters ds) { message := "Ignoring empty [layout].block_string_delimiters entry" }
  | reservedWord (k : Text) (fault : Pattern.Fault) (h : Pattern.read k = .error fault) :
    Warned (.reservedWord k)
      { message := "Ignoring invalid [reserved_words] key " ++ Text.quoted k ++ ": " ++ fault.message }

/-- the value that is set before and not after -/
def lostValue {α : Type} [DecidableEq α] (before after : Option α) : List α :=
  if after = before then [] else before.toList

/-- the delimiters that are in the list before and not after, if there are any -/
def lostDelimiters (before after : Option (List Text)) : List (List Text) :=
  let lost := (before.getD []).filter fun e => e ∉ after.getD []
  if lost = [] then [] else [lost]

namespace Draft

/-- the values of one draft that are not in another, in the order in which sanitizing comes to them -/
def lost (before after : Draft) : List Dropped :=
  (lostValue before.layout.indentWidth after.layout.indentWidth).map .indentWidth ++
    (lostValue before.layout.continuationMarker after.layout.continuationMarker).map .continuationMarker ++
    (lostDelimiters before.layout.blockStringDelimiters after.layout.blockStringDelimiters).map .delimiters ++
    (before.tables.reservedWords.keys.filter fun k => k ∉ after.tables.reservedWords.keys).map .reservedWord

/-- the second draft is the first without some values, each of which has its warning and no other has -/
structure Sanitizes (before after : Draft) : Prop where
  indentWidth : after.layout.indentWidth = before.layout.indentWidth ∨ after.layout.indentWidth = none
  continuationMarker :
    after.layout.continuationMarker = before.layout.continuationMarker ∨ after.layout.continuationMarker = none
  /-- a list stays a list, in its order -/
  blockStringDelimiters :
    after.layout.blockStringDelimiters = before.layout.blockStringDelimiters.map (·.filter (· ≠ []))
  /-- words keep their values and their order -/
  reservedWords : after.tables.reservedWords.entries.Sublist before.tables.reservedWords.entries
  others : after =
    { before with
      layout :=
        { before.layout with
          indentWidth := after.layout.indentWidth
          continuationMarker := after.layout.continuationMarker
          blockStringDelimiters := after.layout.blockStringDelimiters }
      tables := { before.tables with reservedWords := after.tables.reservedWords }
      warnings := after.warnings }
  warnings : ∃ new, after.warnings = before.warnings ++ new ∧ List.Forall₂ Dropped.Warned (before.lost after) new

theorem warned_sanitizeIndent (v : Option Int) :
    List.Forall₂ Dropped.Warned ((lostValue v (sanitizeIndent v).1).map .indentWidth) (sanitizeIndent v).2 := by
  cases v with
  | none => exact .nil
  | some n =>
    by_cases hn : n < 1
    · rw [sanitizeIndent, if_pos hn]
      exact .cons (.indentWidth n hn) .nil
    · rw [sanitizeIndent_of_one_le (Int.not_lt.1 hn), lostValue, if_pos rfl]
      exact .nil

theorem warned_sanitizeMarker (v : Option Text) :
    List.Forall₂ Dropped.Warned ((lostValue v (sanitizeMarker v).1).map .continuationMarker) (sanitizeMarker v).2 := by
  by_cases hempty : v = some []
  · subst hempty
    exact .cons .continuationMarker .nil
  · rw [sanitizeMarker, if_neg hempty, lostValue, if_pos rfl]
    exact .nil

/-- what a list of delimiters loses are the empty ones -/
theorem lostDelimiters_sanitizeDelimiters (ds : List Text) :
    lostDelimiters (some ds) (sanitizeDelimiters (some ds)).1 =
      if ds.filter List.isEmpty = [] then [] else [ds.filter List.isEmpty] := by
  have hempty : (ds.filter fun e => e ∉ ds.filter fun d => !d.isEmpty) = ds.filter List.isEmpty := by
    refine List.filter_congr fun e he => ?_
    cases hempty : e.isEmpty <;> simp [he, hempty]
  rw [← hempty]
  rfl

theorem warned_sanitizeDelimiters (v : Option (List Text)) :
    List.Forall₂ Dropped.Warned ((lostDelimiters v (sanitizeDelimiters v).1).map .delimiters)
      (sanitizeDelimiters v).2 := by
  cases v with
  | none => exact .nil
  | some ds =>
    rw [lostDelimiters_sanitizeDelimiters, sanitizeDelimiters]
    by_cases hany : ds.any List.isEmpty = true
    · obtain ⟨e, he, hempty⟩ := List.any_eq_true.1 hany
      rw [if_neg (List.ne_nil_of_mem (List.mem_filter.2 ⟨he, hempty⟩)), if_pos hany]
      exact .cons (.delimiters _ fun e he => List.isEmpty_iff.1 (List.mem_filter.1 he).2) .nil
    · have hnone := List.any_eq_false.1 (Bool.eq_false_iff.2 hany)
      rw [if_pos (List.filter_eq_nil_iff.2 hnone), if_neg hany]
      exact .nil

/-! ## Keys that are dropped -/

theorem read_of_keyFault? {k : Text} {fault : Pattern.Fault} (h : keyFault? k = some fault) :
    Pattern.read k = .error fault := by
  unfold keyFault? at h
  split at h
  · cases h
  · rename_i hread
    rw [hread, Option.some.inj h]

theorem warned_filterMap_keyWarning? (keys : List Text) :
    List.Forall₂ Dropped.Warned ((keys.filter fun k => (keyFault? k).isSome).map .reservedWord)
      (keys.filterMap keyWarning?) := by
  induction keys with
  | nil => exact .nil
  | cons k rest ih =>
    rw [List.filter_cons, List.filterMap_cons, keyWarning?]
    cases hfault : keyFault? k with
    | none => exact ih
    | some fault => exact .cons (.reservedWord k fault (read_of_keyFault? hfault)) ih

/-- the keys that are dropped are the examined ones that are no patterns -/
theorem filter_notMem_keys_sanitize (t : Table Text) :
    (t.keys.filter fun k => k ∉ (t.filterKeys (keepsKey t)).keys) =
      (examinedKeys t).filter fun k => (keyFault? k).isSome := by
  obtain ⟨later, hlater⟩ : ∃ later, t.keys = examinedKeys t ++ later :=
    ⟨_, List.takeWhile_append_dropWhile.symm⟩
  have hnodup : (examinedKeys t ++ later).Nodup := hlater ▸ t.nodup
  -- no key comes twice, so a later one cannot be dropped for an examined one of the same text
  have hnone : (later.filter fun k => !keepsKey t k) = [] := by
    rw [List.filter_eq_nil_iff]
    intro k hk hdrop
    have hexamined := (mem_examinedKeys_of_not_keepsKey (by simpa using hdrop)).1
    exact (List.nodup_append.1 hnodup).2.2 k hexamined k hk rfl
  calc (t.keys.filter fun k => k ∉ (t.filterKeys (keepsKey t)).keys)
    _ = t.keys.filter fun k => !keepsKey t k := by
        refine List.filter_congr fun k hk => ?_
        rw [Table.keys_filterKeys]
        cases hkeeps : keepsKey t k <;> simp [hk, hkeeps]
    _ = (examinedKeys t ++ later).filter fun k => !keepsKey t k := by rw [← hlater]
    _ = (examinedKeys t).filter fun k => !keepsKey t k := by rw [List.filter_append, hnone, List.append_nil]
    _ = (examinedKeys t).filter fun k => (keyFault? k).isSome := by
        refine List.filter_congr fun k hk => ?_
        rw [keepsKey_of_mem hk, isPattern]
        cases keyFault? k <;> rfl

/-- one warning for each value that is dropped -/
theorem sanitizes_prune (d : Draft) : d.Sanitizes d.prune where
  indentWidth := by
    show (sanitizeIndent d.layout.indentWidth).1 = _ ∨ (sanitizeIndent d.layout.indentWidth).1 = none
    unfold sanitizeIndent
    split
    · exact .inr rfl
    · split
      · exact .inr rfl
      · exact .inl (Eq.symm ‹_›)
  continuationMarker := by
    show (sanitizeMarker d.layout.continuationMarker).1 = _ ∨ (sanitizeMarker d.layout.continuationMarker).1 = none
    unfold sanitizeMarker
    split
    · exact .inr rfl
    · exact .inl rfl
  blockStringDelimiters := by
    show (sanitizeDelimiters d.layout.blockStringDelimiters).1 = _
    cases d.layout.blockStringDelimiters with
    | none => rfl
    | some ds =>
      show some (ds.filter _) = some (ds.filter _)
      refine congrArg some (List.filter_congr fun e _ => ?_)
      cases e <;> rfl
  reservedWords := List.filter_sublist
  others := rfl
  warnings := by
    refine ⟨(sanitizeIndent d.layout.indentWidth).2 ++ (sanitizeMarker d.layout.continuationMarker).2 ++
      (sanitizeDelimiters d.layout.blockStringDelimiters).2 ++
      (examinedKeys d.tables.reservedWords).filterMap keyWarning?, ?_, ?_⟩
    · simp only [prune, List.append_assoc]
    · have hkeys := filter_notMem_keys_sanitize d.tables.reservedWords
      have hwords := warned_filterMap_keyWarning? (examinedKeys d.tables.reservedWords)
      rw [← hkeys] at hwords
      exact List.rel_append (List.rel_append (List.rel_append (warned_sanitizeIndent _) (warned_sanitizeMarker _))
        (warned_sanitizeDelimiters _)) hwords

/-! ## A second time -/

/-- dropping keys leaves the first one that is kept for asking too much where it is, after all that were examined -/
theorem examinedKeys_prune (t : Table Text) :
    examinedKeys (t.filterKeys (keepsKey t)) = (examinedKeys t).filter (keepsKey t) := by
  have hpassed : ∀ k, (!keepsKey t k || (keyFault? k).all (·.cause.isMistake)) =
      (keyFault? k).all (·.cause.isMistake) := by
    intro k
    cases hkeeps : keepsKey t k with
    | true => rfl
    | false => rw [(mem_examinedKeys_of_not_keepsKey hkeeps).2]; rfl
  rw [examinedKeys, Table.keys_filterKeys, List.takeWhile_filter]
  simp only [hpassed]
  rfl

theorem settled_prune (d : Draft) : d.prune.Settled where
  indentWidth := fun _ hn => one_le_of_sanitizeIndent hn
  continuationMarker := fun hempty => ne_nil_of_sanitizeMarker hempty rfl
  blockStringDelimiters := fun _ hds => ne_nil_of_sanitizeDelimiters hds
  reservedWords := by
    intro k hk
    change k ∈ examinedKeys (d.tables.reservedWords.filterKeys (keepsKey d.tables.reservedWords)) at hk
    rw [examinedKeys_prune, List.mem_filter] at hk
    obtain ⟨hexamined, hkeeps⟩ := hk
    rw [keepsKey_of_mem hexamined] at hkeeps
    exact Option.isNone_iff_eq_none.1 hkeeps

/-- dropping values does not change which key keeps a draft from being frozen -/
theorem excess?_prune (d : Draft) : excess? d.prune.tables.reservedWords = excess? d.tables.reservedWords := by
  have hmerge := excess?_merge_prune {} d
  simp only [merge, Tables.merge] at hmerge
  rwa [Table.merge_left_empty, Table.merge_left_empty] at hmerge

/-- what sanitizing has dropped is not dropped again, and what it could not drop is not dropped either -/
theorem sanitize_sanitize (d : Draft) : d.sanitize.sanitize = d.sanitize := by
  by_cases hquotable : endlessUnit? d.layout.indentWidth = none
  · rw [sanitize_eq_prune hquotable, (settled_prune d).sanitize_eq]
  · have hself := sanitize_eq_self (Option.isSome_iff_ne_none.2 hquotable)
    rw [hself, hself]

theorem freeze_sanitize (d : Draft) : d.sanitize.freeze = d.freeze := by
  by_cases hquotable : endlessUnit? d.layout.indentWidth = none
  · rw [sanitize_eq_prune hquotable, freeze, freeze, fault?, fault?, excess?_prune, hquotable,
      (settled_prune d).endlessUnit?_eq_none, (settled_prune d).sanitize_eq, sanitize_eq_prune hquotable]
  · rw [sanitize_eq_self (Option.isSome_iff_ne_none.2 hquotable)]

/-- a draft can be frozen just if its unit can be quoted or has a column, and all that is wrong with its reserved words
is how they are written -/
theorem exists_freeze_iff {d : Draft} :
    (∃ c, d.freeze = .ok c) ↔
      d.UnitIsQuotable ∧
        ∀ k ∈ d.tables.reservedWords.keys, ∀ fault, Pattern.read k = .error fault → fault.cause.isMistake = true := by
  have hfreeze : (∃ c, d.freeze = .ok c) ↔ d.fault? = none :=
    ⟨fun ⟨_, h⟩ => fault?_of_freeze h, fun h => ⟨_, freeze_eq h⟩⟩
  rw [hfreeze, fault?_eq_none_iff, endlessUnit?_eq_none_iff, excess?_eq_none_iff]
  refine and_congr_right fun _ => forall₂_congr fun k _ => ?_
  rw [keyFault?]
  cases Pattern.read k with
  | ok p => simp
  | error fault => simp

section

variable {d : Draft} {c : Config} (h : d.freeze = .ok c)
include h

theorem works_of_freeze : c.Works where
  one_le_indentWidth := Config.IsFrozen.indentWidth_pos ⟨d, h⟩
  continuationMarker_ne_nil := Config.IsFrozen.continuationMarker_ne_nil ⟨d, h⟩
  delimiter_ne_nil := Config.IsFrozen.delimiter_ne_nil ⟨d, h⟩
  isPattern := by
    intro k hk
    have hpattern := isPattern_of_freeze h k hk
    rw [isPattern, keyFault?] at hpattern
    cases hread : Pattern.read k with
    | ok p => rfl
    | error fault => rw [hread] at hpattern; cases hpattern

theorem freeze_thaw : c.thaw.freeze = .ok c := by
  rw [(settled_thaw h).freeze_eq (excess?_thaw h)]
  rfl

end

/-- **Freezing is stable.** Sanitizing a draft drops values, with one warning for each of them, and keeps the rest, unless
its unit is below one and too long to be quoted: then it drops nothing, and the draft cannot be frozen. A second time it
changes nothing and warns of nothing, and the draft that it leaves is frozen to the same settings. A draft can be frozen
just if its unit can be quoted or has a column, and no reserved word asks for more than patterns can do. Then every value
in force works, and the settings in force are frozen to themselves. -/
theorem freeze_stable (d : Draft) :
    (d.UnitIsQuotable → d.Sanitizes d.sanitize) ∧
      (¬ d.UnitIsQuotable → d.sanitize = d ∧ d.freeze = .error (.unshowable ⟨"[layout].indent_width"⟩)) ∧
      d.sanitize.sanitize = d.sanitize ∧
      d.sanitize.freeze = d.freeze ∧
      ((∃ c, d.freeze = .ok c) ↔
        d.UnitIsQuotable ∧
          ∀ k ∈ d.tables.reservedWords.keys, ∀ fault, Pattern.read k = .error fault → fault.cause.isMistake = true) ∧
      ∀ c, d.freeze = .ok c → c.Works ∧ c.thaw.sanitize = c.thaw ∧ c.thaw.freeze = .ok c := by
  rw [← endlessUnit?_eq_none_iff]
  refine ⟨fun h => ?quotable, fun h => ?endless, sanitize_sanitize d, freeze_sanitize d, ?_, fun c h => ?frozen⟩
  case quotable =>
    rw [sanitize_eq_prune h]
    exact sanitizes_prune d
  case endless => exact ⟨sanitize_eq_self (Option.isSome_iff_ne_none.2 h), freeze_of_endless h⟩
  case frozen => exact ⟨works_of_freeze h, (settled_thaw h).sanitize_eq, freeze_thaw h⟩
  rw [endlessUnit?_eq_none_iff]
  exact exists_freeze_iff

/-- a unit and a marker that cannot work, two empty delimiters beside another, and two words of three that are no
patterns: five values are dropped -/
theorem freeze_stable_of_unworkable_values :
    let d : Draft :=
      { layout :=
          { indentWidth := some (-2), continuationMarker := some [], blockStringDelimiters := some ["", "--", ""] }
        tables := { Tables.standard with reservedWords := .ofList [("a(", "b"), ("None", "nil"), ("*", "c")] } }
    d.UnitIsQuotable ∧ ∃ c, d.freeze = .ok c ∧ c.Works ∧ c.thaw.freeze = .ok c ∧
      c.tables.reservedWords.keys = ["None".toList] ∧
      d.lost d.sanitize =
        [.indentWidth (-2), .continuationMarker [], .delimiters ["", ""], .reservedWord "a(", .reservedWord "*"] := by
  intro d
  have hfreeze : d.freeze = .ok d.sanitize.complete := freeze_eq (by decide +kernel)
  obtain ⟨-, -, -, -, hfrozen, hstable⟩ := freeze_stable d
  obtain ⟨hworks, -, hthaw⟩ := hstable _ hfreeze
  exact ⟨(hfrozen.1 ⟨_, hfreeze⟩).1, _, hfreeze, hworks, hthaw, by decide +kernel, by decide +kernel⟩

/-- a word that asks for both kinds of classes at once: it is not dropped, and the draft cannot be frozen -/
theorem incompatible_flags_stop_freezing :
    let d := replacing "(?a)(?u)x" "y"
    d.sanitize = d ∧
      d.freeze = .error (.pattern { cause := .incompatibleFlags, pattern := "(?a)(?u)x", offset := none }) := by
  decide +kernel

/-- a unit below one with as many digits as no message quotes -/
example : ({ layout := { indentWidth := some (-10 ^ 4300) } } : Draft).fault? =
    some (.unshowable ⟨"[layout].indent_width"⟩) := by
  decide +kernel

end Draft

end Linewise
