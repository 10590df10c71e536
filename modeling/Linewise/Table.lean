/-
Tables that keep the order in which their keys first came.

Putting a value under a key that is already there replaces the value and leaves the key in its place; a new key goes to
the end. `Table.merge` puts every entry of a higher table over a lower one. The keys of a `Table` are distinct, by its
type, so merging onto the empty table changes nothing (`merge_left_empty`).
-/
import Linewise.Text.Basic

namespace Linewise

/-- the entries with `v` under `k`: in the place of `k` if it is there, at the end if not -/
def assign {α : Type} (k : Text) (v : α) : List (Text × α) → List (Text × α)
  | [] => [(k, v)]
  | (j, w) :: rest => if j = k then (k, v) :: rest else (j, w) :: assign k v rest

/-- the entries, later ones over earlier ones of the same key -/
def assignAll {α : Type} (lower higher : List (Text × α)) : List (Text × α) :=
  higher.foldl (fun es e => assign e.1 e.2 es) lower

theorem map_fst_assign {α : Type} (k : Text) (v : α) (es : List (Text × α)) :
    (assign k v es).map Prod.fst =
      if k ∈ es.map Prod.fst then es.map Prod.fst else es.map Prod.fst ++ [k] := by
  induction es with
  | nil => simp [assign]
  | cons e rest ih =>
    obtain ⟨j, w⟩ := e
    rw [assign]
    by_cases h : j = k
    · simp [h]
    · have h' : k ≠ j := fun e => h e.symm
      simp only [if_neg h, List.map_cons, ih, List.mem_cons, h', false_or]
      split <;> rfl

theorem nodup_assign {α : Type} (k : Text) (v : α) {es : List (Text × α)} (h : (es.map Prod.fst).Nodup) :
    ((assign k v es).map Prod.fst).Nodup := by
  rw [map_fst_assign]
  split
  · exact h
  · rename_i hk
    rw [List.nodup_append]
    refine ⟨h, by simp, ?_⟩
    intro a ha b hb
    rw [List.mem_singleton] at hb
    rintro rfl
    exact hk (hb ▸ ha)

theorem nodup_assignAll {α : Type} {lower : List (Text × α)} (higher : List (Text × α))
    (h : (lower.map Prod.fst).Nodup) : ((assignAll lower higher).map Prod.fst).Nodup := by
  induction higher generalizing lower with
  | nil => exact h
  | cons e rest ih => exact ih (nodup_assign e.1 e.2 h)

theorem assign_of_notMem {α : Type} {k : Text} (v : α) {es : List (Text × α)} (h : k ∉ es.map Prod.fst) :
    assign k v es = es ++ [(k, v)] := by
  induction es with
  | nil => rfl
  | cons e rest ih =>
    obtain ⟨j, w⟩ := e
    simp only [List.map_cons, List.mem_cons, not_or] at h
    have hj : ¬ j = k := fun e => h.1 e.symm
    rw [assign, if_neg hj, ih h.2, List.cons_append]

/-- entries with distinct new keys are appended as they are -/
theorem assignAll_eq_append {α : Type} (lower higher : List (Text × α))
    (h : ((lower ++ higher).map Prod.fst).Nodup) : assignAll lower higher = lower ++ higher := by
  induction higher generalizing lower with
  | nil => simp [assignAll]
  | cons e rest ih =>
    have hk : e.1 ∉ lower.map Prod.fst := by
      rw [List.map_append, List.nodup_append] at h
      intro hm
      exact h.2.2 e.1 hm e.1 (by simp) rfl
    have hstep : assignAll lower (e :: rest) = assignAll (assign e.1 e.2 lower) rest := rfl
    rw [hstep, assign_of_notMem e.2 hk, ih (lower ++ [(e.1, e.2)]) (by simpa using h)]
    simp

/-- a table from texts to values, in the order in which the keys first came -/
structure Table (α : Type) where
  entries : List (Text × α) := []
  nodup : (entries.map Prod.fst).Nodup := by simp
deriving DecidableEq

namespace Table

variable {α : Type}

def empty : Table α := {}

instance : Inhabited (Table α) := ⟨empty⟩

theorem ext {s t : Table α} (h : s.entries = t.entries) : s = t := by
  cases s
  cases t
  simp_all

/-- the keys, in order -/
def keys (t : Table α) : List Text := t.entries.map Prod.fst

/-- the value under a key -/
def get? (t : Table α) (k : Text) : Option α := t.entries.lookup k

theorem mem_of_get? {t : Table α} {k : Text} {v : α} (h : t.get? k = some v) : (k, v) ∈ t.entries := by
  obtain ⟨before, after, hsplit, -⟩ := List.lookup_eq_some_iff.1 h
  rw [hsplit]
  simp

/-- put the entries of `higher` over those of `lower` -/
def merge (lower higher : Table α) : Table α :=
  ⟨assignAll lower.entries higher.entries, nodup_assignAll higher.entries lower.nodup⟩

/-- the table of a list of entries; of two with the same key the later value counts, in the earlier place -/
def ofList (es : List (Text × α)) : Table α := ⟨assignAll [] es, nodup_assignAll es (by simp)⟩

/-- the entries whose key is in `p` -/
def filterKeys (p : Text → Bool) (t : Table α) : Table α :=
  ⟨t.entries.filter fun e => p e.1, t.nodup.sublist (List.filter_sublist.map Prod.fst)⟩

@[simp] theorem merge_empty (t : Table α) : t.merge {} = t := rfl

theorem merge_left_empty (t : Table α) : merge {} t = t := by
  apply ext
  exact assignAll_eq_append [] t.entries (by simpa using t.nodup)

end Table

end Linewise
