/-
Sanitizing a layer before it is merged, or the merged layers.

A key that is no pattern is dropped either way, and so is an empty delimiter: a list of delimiters replaces the one below
it whole, whatever is dropped from it. An indentation unit or a continuation marker that cannot work is another matter.
It replaces the value below it first and is dropped later: it hides that value (`hiddenBy`), so the standard value comes
back and not the one below (`DraftLayout.fallBack`).

`freeze_merge_sanitize` says just that of every two layers. What is hidden may also be a unit that keeps the lower layer
from being put in force: it does no harm under the layer as it is, and does under the sanitized one.
`invalid_unit_hides_lower` is the smallest case in which a value that works is hidden.
-/
import Linewise.Proofs.Frozen
import Linewise.Proofs.Layers
import Mathlib.Data.List.TakeWhile

namespace Linewise

/-- the layout with the standard values where the layer sets one that cannot work -/
def DraftLayout.fallBack (d : DraftLayout) (l : Layout) : Layout :=
  { l with
    indentWidth := if d.indentWidth.any (· < 1) then Layout.standard.indentWidth else l.indentWidth
    continuationMarker :=
      if d.continuationMarker = some [] then Layout.standard.continuationMarker else l.continuationMarker }

namespace Draft

/-! ## Keys -/

/-- the key reads as a pattern -/
def isPattern (k : Text) : Bool := (keyFault? k).isNone

/-- nothing keeps the draft from being frozen: all that is wrong with its keys is how they are written -/
theorem excess?_eq_none_iff {t : Table Text} :
    excess? t = none ↔ ∀ k ∈ t.keys, (keyFault? k).all (·.cause.isMistake) = true := by
  simp only [excess?, List.find?_eq_none, List.mem_filterMap, forall_exists_index, and_imp, Option.all_eq_true]
  constructor
  · intro h k hk fault hfault
    simpa using h fault k hk hfault
  · intro h fault k hk hfault
    simpa using h k hk fault hfault

/-- sanitizing keeps the key: it is a pattern, or it is not examined -/
def keepsKey (t : Table Text) (k : Text) : Bool := (keyFault? k).isNone || !(examinedKeys t).contains k

/-- of the examined keys the patterns are kept -/
theorem keepsKey_of_mem {t : Table Text} {k : Text} (h : k ∈ examinedKeys t) : keepsKey t k = isPattern k := by
  have hcontains : (examinedKeys t).contains k = true := by simpa using h
  rw [keepsKey, hcontains, Bool.not_true, Bool.or_false, isPattern]

/-- a key that is dropped is examined, and badly written -/
theorem mem_examinedKeys_of_not_keepsKey {t : Table Text} {k : Text} (h : keepsKey t k = false) :
    k ∈ examinedKeys t ∧ (keyFault? k).all (·.cause.isMistake) = true := by
  have hmem : k ∈ examinedKeys t := by simpa using (Bool.or_eq_false_iff.1 h).2
  exact ⟨hmem, List.mem_takeWhile_imp (p := fun k => (keyFault? k).all (·.cause.isMistake)) hmem⟩

/-- then all keys that are no patterns are dropped -/
theorem reservedWords_prune {d : Draft} (h : excess? d.tables.reservedWords = none) :
    d.prune.tables.reservedWords = d.tables.reservedWords.filterKeys isPattern := by
  have hexamined : examinedKeys d.tables.reservedWords = d.tables.reservedWords.keys :=
    List.takeWhile_eq_self_iff.2 (excess?_eq_none_iff.1 h)
  refine Table.ext (List.filter_congr fun e he => keepsKey_of_mem ?_)
  rw [hexamined]
  exact List.mem_map_of_mem he

/-- what is dropped is badly written, so dropping it does not change what keeps a draft from being frozen -/
theorem find?_filterMap_filter (p : Text → Bool) (keys : List Text)
    (h : ∀ k ∈ keys, p k = false → (keyFault? k).all (·.cause.isMistake) = true) :
    ((keys.filter p).filterMap keyFault?).find? (!·.cause.isMistake) =
      (keys.filterMap keyFault?).find? (!·.cause.isMistake) := by
  induction keys with
  | nil => rfl
  | cons k rest ih =>
    have hrest := ih fun j hj => h j (List.mem_cons_of_mem k hj)
    rw [List.filter_cons]
    cases hp : p k with
    | true =>
      simp only [if_true, List.filterMap_cons]
      cases keyFault? k with
      | none => exact hrest
      | some fault =>
        simp only [List.find?_cons]
        rw [hrest]
    | false =>
      have hmistake := h k List.mem_cons_self hp
      simp only [Bool.false_eq_true, if_false, List.filterMap_cons]
      cases hfault : keyFault? k with
      | none => exact hrest
      | some fault =>
        rw [hfault] at hmistake
        have hfound : fault.cause.isMistake = true := hmistake
        rw [hrest, List.find?_cons, hfound]
        rfl

/-- a draft over which a pruned layer is put has the same key that asks for too much, or none, as with the layer as it
was -/
theorem excess?_merge_prune (lower higher : Draft) :
    excess? (lower.merge higher.prune).tables.reservedWords = excess? (lower.merge higher).tables.reservedWords := by
  show excess? (lower.tables.reservedWords.merge
      (higher.tables.reservedWords.filterKeys (keepsKey higher.tables.reservedWords))) =
    excess? (lower.tables.reservedWords.merge higher.tables.reservedWords)
  rw [excess?, excess?, Table.keys_merge, Table.keys_merge, Table.keys_filterKeys, List.filter_filter]
  simp only [Bool.and_comm]
  rw [← List.filter_filter, List.filterMap_append, List.filterMap_append, List.find?_append, List.find?_append,
    find?_filterMap_filter]
  intro k _ hdrop
  exact (mem_examinedKeys_of_not_keepsKey hdrop).2

/-- without such a key the tables in force are the same -/
theorem tables_prune_merge_prune {lower higher : Draft} (h : excess? (lower.merge higher).tables.reservedWords = none) :
    (lower.merge higher.prune).prune.tables = (lower.merge higher).prune.tables := by
  have hhigher : excess? higher.tables.reservedWords = none := by
    rw [excess?_eq_none_iff] at h ⊢
    exact fun k hk => h k (Table.mem_keys_merge.2 (.inr hk))
  have hwords : (lower.merge higher.prune).prune.tables.reservedWords =
      (lower.merge higher).prune.tables.reservedWords := by
    rw [reservedWords_prune h, reservedWords_prune ((excess?_merge_prune lower higher).trans h)]
    show (lower.tables.reservedWords.merge higher.prune.tables.reservedWords).filterKeys isPattern =
      (lower.tables.reservedWords.merge higher.tables.reservedWords).filterKeys isPattern
    rw [reservedWords_prune hhigher, Table.filterKeys_merge, Table.filterKeys_merge, Table.filterKeys_filterKeys]
    simp only [Bool.and_self]
  show Tables.mk (lower.merge higher.prune).prune.tables.reservedWords _ _ _ =
    Tables.mk (lower.merge higher).prune.tables.reservedWords _ _ _
  rw [hwords]
  rfl

/-! ## Layout values -/

/-- a unit that cannot work is lost with the one below it, and any other unit is the one that counts -/
theorem sanitizeIndent_or (indent below : Option Int) :
    (sanitizeIndent (indent.or below)).1 =
      if indent.any (· < 1) then none else (sanitizeIndent ((sanitizeIndent indent).1.or below)).1 := by
  cases indent with
  | none => rfl
  | some n => by_cases hn : n < 1 <;> simp [sanitizeIndent, hn]

theorem sanitizeMarker_or (marker below : Option Text) :
    (sanitizeMarker (marker.or below)).1 =
      if marker = some [] then none else (sanitizeMarker ((sanitizeMarker marker).1.or below)).1 := by
  by_cases hempty : marker = some []
  · rw [hempty, if_pos rfl]
    rfl
  · rw [if_neg hempty, sanitizeMarker, sanitizeMarker, sanitizeMarker, if_neg hempty]

/-- an empty delimiter is dropped from the list, which counts all the same -/
theorem sanitizeDelimiters_or (delimiters below : Option (List Text)) :
    (sanitizeDelimiters (delimiters.or below)).1 =
      (sanitizeDelimiters ((sanitizeDelimiters delimiters).1.or below)).1 := by
  cases delimiters with
  | none => rfl
  | some ds =>
    show some (ds.filter _) = some ((ds.filter _).filter _)
    rw [List.filter_filter]
    simp only [Bool.and_self]

theorem layout_prune_merge_prune (lower higher : Draft) :
    (lower.merge higher).prune.layout.complete =
      higher.layout.fallBack (lower.merge higher.prune).prune.layout.complete := by
  let unit : Option Int → Nat := fun v => (v.map Int.toNat).getD Layout.standard.indentWidth
  let marker : Option Text → Text := (·.getD Layout.standard.continuationMarker)
  let delimiters : Option (List Text) → List Text := (·.getD Layout.standard.blockStringDelimiters)
  have hindent := congrArg unit (sanitizeIndent_or higher.layout.indentWidth lower.layout.indentWidth)
  have hmarker := congrArg marker (sanitizeMarker_or higher.layout.continuationMarker lower.layout.continuationMarker)
  have hdelimiters := congrArg delimiters
    (sanitizeDelimiters_or higher.layout.blockStringDelimiters lower.layout.blockStringDelimiters)
  rw [apply_ite unit] at hindent
  rw [apply_ite marker] at hmarker
  simp only [DraftLayout.complete, DraftLayout.fallBack, Layout.mk.injEq]
  exact ⟨hindent, rfl, rfl, hmarker, rfl, hdelimiters, rfl⟩

/-! ## Values that are hidden -/

/-- the layer without the unit and the marker that a higher one hides, by setting one that cannot work -/
def hiddenBy (lower higher : Draft) : Draft :=
  { lower with
    layout :=
      { lower.layout with
        indentWidth := if higher.layout.indentWidth.any (· < 1) then none else lower.layout.indentWidth
        continuationMarker :=
          if higher.layout.continuationMarker = some [] then none else lower.layout.continuationMarker } }

/-- a unit that is dropped has hidden the one below it -/
theorem sanitizeIndent_or_hidden (indent below : Option Int) :
    (sanitizeIndent (indent.or below)).1 =
      (sanitizeIndent ((sanitizeIndent indent).1.or (if indent.any (· < 1) then none else below))).1 := by
  rw [sanitizeIndent_or]
  cases indent with
  | none => rfl
  | some n =>
    by_cases hn : n < 1
    · have hdrop : (sanitizeIndent (some n)).1 = none := by rw [sanitizeIndent, if_pos hn]
      have hany : (some n).any (fun m => decide (m < 1)) = true := by simpa using hn
      rw [if_pos hany, if_pos hany, hdrop]
      rfl
    · have hany : ¬ (some n).any (fun m => decide (m < 1)) = true := by simpa using hn
      rw [if_neg hany, if_neg hany]

theorem sanitizeMarker_or_hidden (marker below : Option Text) :
    (sanitizeMarker (marker.or below)).1 =
      (sanitizeMarker ((sanitizeMarker marker).1.or (if marker = some [] then none else below))).1 := by
  rw [sanitizeMarker_or]
  by_cases hempty : marker = some []
  · rw [if_pos hempty, if_pos hempty, hempty]
    rfl
  · rw [if_neg hempty, if_neg hempty]

/-- what is hidden is lost either way -/
theorem layout_prune_merge_hiddenBy (lower higher : Draft) :
    (lower.merge higher).prune.layout = ((lower.hiddenBy higher).merge higher.prune).prune.layout := by
  have hindent := sanitizeIndent_or_hidden higher.layout.indentWidth lower.layout.indentWidth
  have hmarker := sanitizeMarker_or_hidden higher.layout.continuationMarker lower.layout.continuationMarker
  have hdelimiters := sanitizeDelimiters_or higher.layout.blockStringDelimiters lower.layout.blockStringDelimiters
  show DraftLayout.mk _ _ _ _ _ _ _ = DraftLayout.mk _ _ _ _ _ _ _
  rw [DraftLayout.mk.injEq]
  exact ⟨hindent, rfl, rfl, hmarker, rfl, hdelimiters, rfl⟩

/-! ## Units that keep a draft from being put in force -/

/-- a unit below one is quoted and dropped, or it cannot be quoted; the one below it counts in neither case -/
theorem endlessUnit?_or_hidden (indent below : Option Int) (h : endlessUnit? indent = none) :
    endlessUnit? ((sanitizeIndent indent).1.or (if indent.any (· < 1) then none else below)) =
      endlessUnit? (indent.or below) := by
  cases indent with
  | none => rfl
  | some n =>
    by_cases hn : n < 1
    · have hdrop : (sanitizeIndent (some n)).1 = none := by rw [sanitizeIndent, if_pos hn]
      rw [hdrop, if_pos (by simpa using hn), Option.some_or, h]
      rfl
    · rw [sanitizeIndent_of_one_le (Int.not_lt.1 hn)]
      rfl

/-- a unit that is dropped no longer covers the one below it -/
theorem endlessUnit?_or_sanitized (indent below : Option Int) :
    endlessUnit? ((sanitizeIndent indent).1.or below) =
      if indent.any (· < 1) then endlessUnit? below else endlessUnit? (indent.or below) := by
  cases indent with
  | none => rfl
  | some n =>
    by_cases hn : n < 1
    · have hdrop : (sanitizeIndent (some n)).1 = none := by rw [sanitizeIndent, if_pos hn]
      rw [hdrop, if_pos (by simpa using hn), Option.none_or]
    · rw [sanitizeIndent_of_one_le (Int.not_lt.1 hn), if_neg (by simpa using hn)]

/-- over any layer, a unit that cannot be quoted keeps the draft from being put in force -/
theorem freeze_merge_of_endless (lower : Draft) {higher : Draft} (h : endlessUnit? higher.layout.indentWidth ≠ none) :
    (lower.merge higher).freeze = .error (.unshowable ⟨"[layout].indent_width"⟩) := by
  refine freeze_of_endless ?_
  show endlessUnit? (higher.layout.indentWidth.or lower.layout.indentWidth) ≠ none
  cases hn : higher.layout.indentWidth with
  | none => rw [hn] at h; exact absurd rfl h
  | some n => rwa [hn] at h

/-- two drafts that sanitizing stops at the same, and that are in force the same where it does not -/
theorem freeze_map_eq {α : Type} {d e : Draft} {f g : Config → α}
    (hunit : endlessUnit? d.layout.indentWidth = endlessUnit? e.layout.indentWidth)
    (hexcess : excess? d.tables.reservedWords = excess? e.tables.reservedWords)
    (hok : excess? d.tables.reservedWords = none → f d.prune.complete = g e.prune.complete) :
    d.freeze.map f = e.freeze.map g := by
  have hfault : d.fault? = e.fault? := by rw [fault?, fault?, hunit, hexcess]
  cases h : d.fault? with
  | some fault =>
    rw [freeze, freeze, ← hfault, h]
    rfl
  | none =>
    rw [freeze_eq_ok_iff.2 ⟨h, rfl⟩, freeze_eq_ok_iff.2 ⟨hfault.symm.trans h, rfl⟩]
    exact congrArg Except.ok (hok (fault?_eq_none_iff.1 h).2)

/-- a layer that can be sanitized and what it hides, taken away -/
theorem freeze_merge_prune_hiddenBy (lower : Draft) {higher : Draft}
    (h : endlessUnit? higher.layout.indentWidth = none) :
    (lower.merge higher).freeze.map (fun c => (c.layout, c.tables)) =
      ((lower.hiddenBy higher).merge higher.prune).freeze.map fun c => (c.layout, c.tables) := by
  have hexcess : excess? (lower.merge higher).tables.reservedWords =
      excess? ((lower.hiddenBy higher).merge higher.prune).tables.reservedWords :=
    (excess?_merge_prune (lower.hiddenBy higher) higher).symm
  refine freeze_map_eq (endlessUnit?_or_hidden _ _ h).symm hexcess fun hnone => ?_
  have hhidden : excess? ((lower.hiddenBy higher).merge higher).tables.reservedWords = none := hnone
  have htables : ((lower.hiddenBy higher).merge higher.prune).prune.tables = (lower.merge higher).prune.tables :=
    tables_prune_merge_prune hhidden
  show ((lower.merge higher).prune.layout.complete, (lower.merge higher).prune.tables) =
    (((lower.hiddenBy higher).merge higher.prune).prune.layout.complete,
      ((lower.hiddenBy higher).merge higher.prune).prune.tables)
  rw [htables, layout_prune_merge_hiddenBy]

/-- a layer that can be sanitized and the values that it brings back -/
theorem freeze_merge_prune_fallBack {lower higher : Draft}
    (hunit : endlessUnit? (higher.layout.indentWidth.or lower.layout.indentWidth) =
      endlessUnit? (higher.prune.layout.indentWidth.or lower.layout.indentWidth)) :
    (lower.merge higher).freeze.map (fun c => (c.layout, c.tables)) =
      (lower.merge higher.prune).freeze.map fun c => (higher.layout.fallBack c.layout, c.tables) := by
  refine freeze_map_eq hunit (excess?_merge_prune lower higher).symm fun hnone => ?_
  show ((lower.merge higher).prune.layout.complete, (lower.merge higher).prune.tables) =
    (higher.layout.fallBack (lower.merge higher.prune).prune.layout.complete, (lower.merge higher.prune).prune.tables)
  rw [tables_prune_merge_prune hnone, layout_prune_merge_prune]

/-- **Sanitizing before or after merging.** Merging a layer as it is comes to sanitizing it first and taking away what it
hides below: the same layout and the same tables are in force, and the same keeps them from being put in force. So if
nothing is taken away, the layout is the same but for the values of the higher layer that cannot work: merged as they
are, they bring the standard value back, whatever the lower layer sets. Only a unit that cannot even be quoted makes
more of a difference: hidden by one that is dropped, it no longer stops the settings. -/
theorem freeze_merge_sanitize (lower higher : Draft) :
    ((lower.merge higher).freeze.map (fun c => (c.layout, c.tables)) =
      ((lower.hiddenBy higher).merge higher.sanitize).freeze.map fun c => (c.layout, c.tables)) ∧
    if higher.layout.indentWidth.any (· < 1) ∧ endlessUnit? higher.layout.indentWidth = none ∧
        endlessUnit? lower.layout.indentWidth ≠ none then
      (lower.merge higher.sanitize).freeze = .error (.unshowable ⟨"[layout].indent_width"⟩)
    else
      (lower.merge higher).freeze.map (fun c => (c.layout, c.tables)) =
        (lower.merge higher.sanitize).freeze.map fun c => (higher.layout.fallBack c.layout, c.tables) := by
  by_cases hendless : endlessUnit? higher.layout.indentWidth = none
  · rw [sanitize_eq_prune hendless]
    refine ⟨freeze_merge_prune_hiddenBy lower hendless, ?_⟩
    have hunit : endlessUnit? (higher.prune.layout.indentWidth.or lower.layout.indentWidth) =
        if higher.layout.indentWidth.any (· < 1) then endlessUnit? lower.layout.indentWidth
        else endlessUnit? (higher.layout.indentWidth.or lower.layout.indentWidth) := endlessUnit?_or_sanitized _ _
    split
    case isTrue huncovered =>
      obtain ⟨hdrop, -, hlower⟩ := huncovered
      rw [if_pos hdrop] at hunit
      exact freeze_of_endless fun hnone => hlower (hunit.symm.trans hnone)
    case isFalse hcovered =>
      refine freeze_merge_prune_fallBack (Eq.symm (hunit.trans ?_))
      split
      case isTrue hdrop =>
        have hlower : endlessUnit? lower.layout.indentWidth = none := by
          by_contra hlower
          exact hcovered ⟨hdrop, hendless, hlower⟩
        have hcovers : higher.layout.indentWidth.or lower.layout.indentWidth = higher.layout.indentWidth := by
          cases hn : higher.layout.indentWidth with
          | none => rw [hn] at hdrop; cases hdrop
          | some n => rfl
        rw [hlower, hcovers, hendless]
      case isFalse => rfl
  · rw [sanitize_eq_self (Option.isSome_iff_ne_none.2 hendless), if_neg fun h => hendless h.2.1,
      freeze_merge_of_endless _ hendless, freeze_merge_of_endless _ hendless]
    exact ⟨rfl, rfl⟩

/-- a unit of two columns below one of none: merged first, it is lost to the standard one -/
theorem invalid_unit_hides_lower :
    let lower : Draft := { layout := { indentWidth := some 2 } }
    let higher : Draft := { layout := { indentWidth := some 0 } }
    (lower.merge higher).freeze.map (·.layout.indentWidth) = .ok 4 ∧
      (lower.merge higher.sanitize).freeze.map (·.layout.indentWidth) = .ok 2 := by
  decide +kernel

end Draft

end Linewise
