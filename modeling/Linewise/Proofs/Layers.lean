/-
Layers of tables.

Merging keeps the keys of the lower table in their places and puts the new keys of the higher one after them
(`Table.keys_merge`), and of two values under one key takes the higher one (`Table.get?_merge`). A table is its keys in
order with the value under each, so these two settle every equation between merged tables (`Table.merge_assoc`). Dropping
keys goes through merging (`Table.filterKeys_merge`), so it does not matter whether a key is dropped before or after. A
table whose keys begin with those of another takes nothing from it (`Table.merge_of_isPrefix`).
-/
import Linewise.Config.Draft

namespace Linewise

variable {α : Type}

theorem filter_assign (p : Text → Bool) (k : Text) (v : α) (es : List (Text × α)) :
    (assign k v es).filter (fun e => p e.1) =
      if p k then assign k v (es.filter fun e => p e.1) else es.filter fun e => p e.1 := by
  induction es with
  | nil => cases hk : p k <;> simp [assign, hk]
  | cons e rest ih =>
    obtain ⟨j, w⟩ := e
    rw [assign]
    by_cases hjk : j = k
    · subst hjk
      cases hj : p j <;> simp [hj, assign]
    · rw [if_neg hjk, List.filter_cons, ih]
      cases hj : p j <;> cases hk : p k <;> simp [hj, assign, hjk]

theorem filter_assignAll (p : Text → Bool) (lower higher : List (Text × α)) :
    (assignAll lower higher).filter (fun e => p e.1) =
      assignAll (lower.filter fun e => p e.1) (higher.filter fun e => p e.1) := by
  induction higher generalizing lower with
  | nil => rfl
  | cons e rest ih =>
    show (assignAll (assign e.1 e.2 lower) rest).filter _ = _
    rw [ih, filter_assign, List.filter_cons]
    cases hk : p e.1 <;> rfl

theorem map_fst_assignAll (lower : List (Text × α)) {higher : List (Text × α)} (h : (higher.map Prod.fst).Nodup) :
    (assignAll lower higher).map Prod.fst =
      lower.map Prod.fst ++ (higher.map Prod.fst).filter fun k => !(lower.map Prod.fst).contains k := by
  induction higher generalizing lower with
  | nil => simp [assignAll]
  | cons e rest ih =>
    rw [List.map_cons, List.nodup_cons] at h
    show (assignAll (assign e.1 e.2 lower) rest).map Prod.fst = _
    rw [ih _ h.2, map_fst_assign]
    by_cases hk : e.1 ∈ lower.map Prod.fst
    · have hcontains : (lower.map Prod.fst).contains e.1 = true := by simpa using hk
      rw [if_pos hk, List.map_cons, List.filter_cons, hcontains]
      rfl
    · have hcontains : (lower.map Prod.fst).contains e.1 = false := by simpa using hk
      have hrest : ∀ k ∈ rest.map Prod.fst, (!(lower.map Prod.fst ++ [e.1]).contains k) =
          !(lower.map Prod.fst).contains k := by
        intro k hmem
        have hne : k ≠ e.1 := fun he => h.1 (he ▸ hmem)
        simp [hne]
      rw [if_neg hk, List.map_cons, List.filter_cons, hcontains, List.filter_congr hrest, List.append_assoc]
      rfl

/-- what stands under another key than all the higher ones stays in front -/
theorem assignAll_cons_of_notMem {k : Text} (v : α) (lower : List (Text × α)) {higher : List (Text × α)}
    (h : k ∉ higher.map Prod.fst) : assignAll ((k, v) :: lower) higher = (k, v) :: assignAll lower higher := by
  induction higher generalizing lower with
  | nil => rfl
  | cons e rest ih =>
    rw [List.map_cons, List.mem_cons, not_or] at h
    show assignAll (assign e.1 e.2 ((k, v) :: lower)) rest = (k, v) :: assignAll (assign e.1 e.2 lower) rest
    rw [assign, if_neg h.1, ih _ h.2]

theorem assignAll_of_isPrefix {lower higher : List (Text × α)} (hnodup : (higher.map Prod.fst).Nodup)
    (h : lower.map Prod.fst <+: higher.map Prod.fst) : assignAll lower higher = higher := by
  induction lower generalizing higher with
  | nil => exact assignAll_eq_append [] higher hnodup
  | cons e rest ih =>
    obtain ⟨k, v⟩ := e
    cases higher with
    | nil => simp at h
    | cons e' more =>
      obtain ⟨k', v'⟩ := e'
      rw [List.map_cons, List.map_cons, List.cons_prefix_cons] at h
      obtain ⟨hk, hrest⟩ := h
      cases hk
      rw [List.map_cons, List.nodup_cons] at hnodup
      show assignAll (assign k v' ((k, v) :: rest)) more = _
      rw [assign, if_pos rfl, assignAll_cons_of_notMem v' rest hnodup.1, ih hnodup.2 hrest]

theorem lookup_cons_eq_ite (k : Text) (v : α) (es : List (Text × α)) (j : Text) :
    ((k, v) :: es).lookup j = if j = k then some v else es.lookup j := by
  rw [List.lookup_cons]
  by_cases h : j = k
  · rw [if_pos h, h, beq_self_eq_true]
  · rw [if_neg h, beq_eq_false_iff_ne.2 h]

theorem lookup_of_notMem {k : Text} {es : List (Text × α)} (h : k ∉ es.map Prod.fst) : es.lookup k = none := by
  refine List.lookup_eq_none_iff.2 fun e he => ?_
  have hne : k ≠ e.1 := fun hk => h (hk ▸ List.mem_map_of_mem he)
  exact bne_iff_ne.2 hne

theorem lookup_assign (k : Text) (v : α) (es : List (Text × α)) (j : Text) :
    (assign k v es).lookup j = if j = k then some v else es.lookup j := by
  induction es with
  | nil => rw [assign, lookup_cons_eq_ite]
  | cons e rest ih =>
    obtain ⟨i, w⟩ := e
    rw [assign]
    by_cases hik : i = k
    · subst hik
      rw [if_pos rfl, lookup_cons_eq_ite, lookup_cons_eq_ite]
      split <;> rfl
    · rw [if_neg hik, lookup_cons_eq_ite, lookup_cons_eq_ite, ih]
      by_cases hji : j = i
      · subst hji
        rw [if_pos rfl, if_pos rfl, if_neg hik]
      · rw [if_neg hji, if_neg hji]

theorem lookup_assignAll (lower : List (Text × α)) {higher : List (Text × α)} (h : (higher.map Prod.fst).Nodup)
    (k : Text) : (assignAll lower higher).lookup k = (higher.lookup k).or (lower.lookup k) := by
  induction higher generalizing lower with
  | nil => rfl
  | cons e rest ih =>
    rw [List.map_cons, List.nodup_cons] at h
    show (assignAll (assign e.1 e.2 lower) rest).lookup k = _
    rw [ih _ h.2, lookup_assign, lookup_cons_eq_ite]
    by_cases hk : k = e.1
    · subst hk
      rw [lookup_of_notMem h.1, if_pos rfl, if_pos rfl]
      rfl
    · rw [if_neg hk, if_neg hk]

/-- entries with distinct keys are determined by the keys in order and the value under each -/
theorem eq_of_map_fst_of_lookup {es fs : List (Text × α)} (hes : (es.map Prod.fst).Nodup)
    (hkeys : es.map Prod.fst = fs.map Prod.fst) (hlookup : ∀ k, es.lookup k = fs.lookup k) : es = fs := by
  induction es generalizing fs with
  | nil => exact (List.map_eq_nil_iff.1 hkeys.symm).symm
  | cons e es ih =>
    cases fs with
    | nil => cases hkeys
    | cons f fs =>
      obtain ⟨k, v⟩ := e
      obtain ⟨k', w⟩ := f
      simp only [List.map_cons, List.cons.injEq] at hkeys
      obtain ⟨rfl, hkeys⟩ := hkeys
      rw [List.map_cons, List.nodup_cons] at hes
      have hfs : k ∉ fs.map Prod.fst := hkeys ▸ hes.1
      simp only [lookup_cons_eq_ite] at hlookup
      have hvalue : v = w := by simpa using hlookup k
      have hrest : ∀ j, es.lookup j = fs.lookup j := by
        intro j
        by_cases hj : j = k
        · rw [hj, lookup_of_notMem hes.1, lookup_of_notMem hfs]
        · simpa [hj] using hlookup j
      rw [hvalue, ih hes.2 hkeys hrest]

namespace Table

variable (lower higher : Table α)

/-- the keys of the lower table, then the new ones of the higher -/
theorem keys_merge :
    (lower.merge higher).keys = lower.keys ++ higher.keys.filter fun k => !lower.keys.contains k :=
  map_fst_assignAll lower.entries higher.nodup

theorem mem_keys_merge {lower higher : Table α} {k : Text} :
    k ∈ (lower.merge higher).keys ↔ k ∈ lower.keys ∨ k ∈ higher.keys := by
  rw [keys_merge, List.mem_append, List.mem_filter]
  by_cases h : k ∈ lower.keys <;> simp [h]

/-- the higher of two values under one key counts -/
theorem get?_merge (k : Text) : (lower.merge higher).get? k = (higher.get? k).or (lower.get? k) :=
  lookup_assignAll lower.entries higher.nodup k

/-- a table is its keys in order, with the value under each -/
theorem ext_get? {s t : Table α} (hkeys : s.keys = t.keys) (hget : ∀ k, s.get? k = t.get? k) : s = t :=
  ext (eq_of_map_fst_of_lookup s.nodup hkeys hget)

theorem merge_assoc (a b c : Table α) : (a.merge b).merge c = a.merge (b.merge c) := by
  refine ext_get? ?_ fun k => ?_
  · simp only [keys_merge, List.filter_append, List.filter_filter, List.append_assoc, List.append_cancel_left_eq]
    refine List.filter_congr fun k _ => ?_
    -- a key of `b` that is no key of `a` stands among the new ones, any other key of `b` among those of `a`
    by_cases ha : k ∈ a.keys <;> by_cases hb : k ∈ b.keys <;> simp [ha, hb]
  · simp only [get?_merge, Option.or_assoc]

theorem keys_filterKeys (p : Text → Bool) (t : Table α) : (t.filterKeys p).keys = t.keys.filter p := by
  rw [keys, keys, filterKeys, List.filter_map]
  rfl

/-- dropping keys before merging, or after it -/
theorem filterKeys_merge (p : Text → Bool) :
    (lower.merge higher).filterKeys p = (lower.filterKeys p).merge (higher.filterKeys p) :=
  ext (filter_assignAll p lower.entries higher.entries)

theorem filterKeys_filterKeys (p q : Text → Bool) (t : Table α) :
    (t.filterKeys p).filterKeys q = t.filterKeys fun k => p k && q k :=
  ext (by simp [filterKeys, List.filter_filter, Bool.and_comm])

theorem filterKeys_eq_self {p : Text → Bool} {t : Table α} (h : ∀ k ∈ t.keys, p k = true) : t.filterKeys p = t := by
  refine ext (List.filter_eq_self.2 fun e he => h e.1 ?_)
  exact List.mem_map_of_mem he

/-- a table whose keys begin with those of the lower one is not changed by it -/
theorem merge_of_isPrefix {lower higher : Table α} (h : lower.keys <+: higher.keys) : lower.merge higher = higher :=
  ext (assignAll_of_isPrefix higher.nodup h)

end Table

end Linewise
