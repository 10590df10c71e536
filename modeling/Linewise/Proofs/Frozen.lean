/-
Settings in force: what freezing a draft guarantees.

Freezing drops the layout values that cannot work and takes the standard ones for what is left unset. So the indentation
unit of settings in force has at least one column, and neither their continuation marker nor any of their block-string
delimiters is empty. `Config.replacing` are the smallest settings that edit anything.
-/
import Linewise.Config.Draft
import Mathlib.Algebra.Group.Nat.Defs

namespace Linewise

/-- settings that came out of freezing a draft -/
def Config.IsFrozen (c : Config) : Prop := ∃ d : Draft, d.freeze = .ok c

namespace Draft

/-- a unit that can be quoted or has a column does not keep the draft from being sanitized -/
theorem sanitize_eq_prune {d : Draft} (h : endlessUnit? d.layout.indentWidth = none) : d.sanitize = d.prune := by
  rw [sanitize, h]
  rfl

theorem sanitize_eq_self {d : Draft} (h : (endlessUnit? d.layout.indentWidth).isSome = true) : d.sanitize = d := if_pos h

theorem fault?_eq_none_iff {d : Draft} :
    d.fault? = none ↔ endlessUnit? d.layout.indentWidth = none ∧ excess? d.tables.reservedWords = none := by
  rw [fault?, Option.or_eq_none_iff, Option.map_eq_none_iff, Option.map_eq_none_iff]

/-- a draft is frozen just if nothing keeps sanitizing from its end -/
theorem freeze_eq_ok_iff {d : Draft} {c : Config} :
    d.freeze = .ok c ↔ d.fault? = none ∧ c = d.prune.complete := by
  unfold freeze
  cases hfault : d.fault? with
  | some fault => simp
  | none =>
    simp only [Except.ok.injEq, true_and]
    rw [sanitize_eq_prune (fault?_eq_none_iff.1 hfault).1]
    exact eq_comm

theorem eq_of_freeze {d : Draft} {c : Config} (h : d.freeze = .ok c) : c = d.prune.complete := (freeze_eq_ok_iff.1 h).2

theorem fault?_of_freeze {d : Draft} {c : Config} (h : d.freeze = .ok c) : d.fault? = none := (freeze_eq_ok_iff.1 h).1

theorem freeze_eq {d : Draft} (h : d.fault? = none) : d.freeze = .ok d.sanitize.complete := by
  rw [freeze, h]

/-- the warning about a unit is the first that cannot be made -/
theorem freeze_of_endless {d : Draft} (h : endlessUnit? d.layout.indentWidth ≠ none) :
    d.freeze = .error (.unshowable ⟨"[layout].indent_width"⟩) := by
  have hendless : endlessUnit? d.layout.indentWidth = some ⟨"[layout].indent_width"⟩ := by
    by_cases hunit : (d.layout.indentWidth.any fun n => n < 1 && !(Value.int n).isShowable) = true
    · exact if_pos hunit
    · exact absurd (if_neg hunit) h
  rw [freeze, fault?, hendless]
  rfl

/-- the unit has a column, or the warning about it can be made -/
def UnitIsQuotable (d : Draft) : Prop :=
  ∀ n, d.layout.indentWidth = some n → n < 1 → n.natAbs < 10 ^ maxDigits

theorem endlessUnit?_eq_none_iff {d : Draft} : endlessUnit? d.layout.indentWidth = none ↔ d.UnitIsQuotable := by
  have hshown (n : Int) : (Value.int n).isShowable = decide (n.natAbs < 10 ^ maxDigits) := rfl
  unfold endlessUnit? UnitIsQuotable
  cases d.layout.indentWidth with
  | none => exact iff_of_true rfl fun _ h => nomatch h
  | some n =>
    rw [Option.any_some, hshown, ite_eq_right_iff]
    simp only [Bool.and_eq_true, decide_eq_true_eq, Bool.not_eq_true', decide_eq_false_iff_not, reduceCtorEq,
      imp_false, not_and, Nat.not_lt, Nat.not_le, Option.some.injEq, forall_eq']

/-- a unit with a column has no need of a warning -/
theorem endlessUnit?_of_one_le {n : Int} (h : 1 ≤ n) : endlessUnit? (some n) = none := by
  have hn : ¬ n < 1 := Int.not_lt.2 h
  simp [endlessUnit?, hn]

theorem one_le_of_sanitizeIndent {v : Option Int} {n : Int} (h : (sanitizeIndent v).1 = some n) : 1 ≤ n := by
  unfold sanitizeIndent at h
  split at h
  · cases h
  · split at h
    · cases h
    · rename_i hn
      injection h with h
      omega

theorem sanitizeIndent_of_one_le {n : Int} (h : 1 ≤ n) : sanitizeIndent (some n) = (some n, []) := by
  rw [sanitizeIndent, if_neg (Int.not_lt.2 h)]

theorem ne_nil_of_sanitizeMarker {v : Option Text} {m : Text} (h : (sanitizeMarker v).1 = some m) : m ≠ [] := by
  unfold sanitizeMarker at h
  split at h
  · cases h
  · rintro rfl
    contradiction

theorem ne_nil_of_sanitizeDelimiters {v : Option (List Text)} {ds : List Text}
    (h : (sanitizeDelimiters v).1 = some ds) : ∀ d ∈ ds, d ≠ [] := by
  unfold sanitizeDelimiters at h
  split at h
  · cases h
  · injection h with h
    subst h
    intro d hd hnil
    have hkept := (List.mem_filter.1 hd).2
    rw [hnil] at hkept
    cases hkept

theorem sanitizeDelimiters_of_ne_nil {ds : List Text} (h : ∀ d ∈ ds, d ≠ []) :
    sanitizeDelimiters (some ds) = (some ds, []) := by
  have hnone : ds.any List.isEmpty = false := by simpa [List.any_eq_false] using h
  have hall : ds.filter (fun d => !d.isEmpty) = ds := by simpa [List.filter_eq_self] using h
  rw [sanitizeDelimiters, hall, hnone]
  rfl

end Draft

namespace Config.IsFrozen

theorem indentWidth_pos {c : Config} (h : c.IsFrozen) : 0 < c.layout.indentWidth := by
  obtain ⟨d, hd⟩ := h
  rw [Draft.eq_of_freeze hd]
  show 0 < ((Draft.sanitizeIndent d.layout.indentWidth).1.map Int.toNat).getD Layout.standard.indentWidth
  cases hv : (Draft.sanitizeIndent d.layout.indentWidth).1 with
  | none => decide
  | some n =>
    have hn := Draft.one_le_of_sanitizeIndent hv
    show 0 < n.toNat
    omega

theorem continuationMarker_ne_nil {c : Config} (h : c.IsFrozen) : c.layout.continuationMarker ≠ [] := by
  obtain ⟨d, hd⟩ := h
  rw [Draft.eq_of_freeze hd]
  show (Draft.sanitizeMarker d.layout.continuationMarker).1.getD Layout.standard.continuationMarker ≠ []
  cases hv : (Draft.sanitizeMarker d.layout.continuationMarker).1 with
  | none => decide
  | some m => exact Draft.ne_nil_of_sanitizeMarker hv

theorem delimiter_ne_nil {c : Config} (h : c.IsFrozen) : ∀ d ∈ c.layout.blockStringDelimiters, d ≠ [] := by
  obtain ⟨d, hd⟩ := h
  rw [Draft.eq_of_freeze hd]
  show ∀ e ∈ (Draft.sanitizeDelimiters d.layout.blockStringDelimiters).1.getD Layout.standard.blockStringDelimiters,
    e ≠ []
  cases hv : (Draft.sanitizeDelimiters d.layout.blockStringDelimiters).1 with
  | none => decide
  | some ds => exact Draft.ne_nil_of_sanitizeDelimiters hv

end Config.IsFrozen

/-! ## The smallest settings -/

/-- the layer that replaces one word and sets nothing else -/
def Draft.replacing (word replacement : Text) : Draft where
  tables :=
    { reservedWords := .ofList [(word, replacement)]
      functionsToMethods := .ofList []
      functionsToFunctions := .ofList []
      specialMethods := .ofList [] }

/-- the settings in force that replace one word and are standard otherwise -/
def Config.replacing (word replacement : Text) : Config := (Draft.replacing word replacement).sanitize.complete

theorem Config.replacing_isFrozen {word replacement : Text} (h : (Draft.replacing word replacement).fault? = none) :
    (Config.replacing word replacement).IsFrozen :=
  ⟨Draft.replacing word replacement, Draft.freeze_eq h⟩

end Linewise
