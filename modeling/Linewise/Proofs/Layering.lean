/-
Layers of settings, one over another.

`Draft.mergeAll` puts a list of layers one over another, the way the documents of a run are put over the standard
settings (`Loading.draft_load`). Merging is associative and the empty layer changes nothing, so layers can be merged in
any grouping. `Layered` says what comes of a list of layers without merging anything: each value is that of the last
layer that sets it (`lastSet?`), and the keys of a table stand in the order in which they first appear.

`Draft.layers_last_wins`: this holds of every list of layers, and of the settings that are loaded from documents.
-/
import Linewise.Config.Sources
import Linewise.Proofs.Refreezing
import Mathlib.Data.List.Induction

namespace Linewise

/-! ## Keys in the order of their first appearance -/

theorem eraseDups_of_nodup {ks : List Text} (h : ks.Nodup) : ks.eraseDups = ks := by
  induction ks with
  | nil => rfl
  | cons k rest ih =>
    rw [List.nodup_cons] at h
    have hrest : rest.filter (fun j => !j == k) = rest := by
      refine List.filter_eq_self.2 fun j hj => ?_
      have hne : j ≠ k := fun he => h.1 (he ▸ hj)
      simpa using hne
    rw [List.eraseDups_cons, hrest, ih h.2]

theorem Table.nodup_keys {α : Type} (t : Table α) : t.keys.Nodup := t.nodup

/-- merging goes on with the keys in the order of their first appearance -/
theorem Table.keys_merge_eq_eraseDups {α : Type} {lower : Table α} (higher : Table α) {ks : List Text}
    (h : lower.keys = ks.eraseDups) : (lower.merge higher).keys = (ks ++ higher.keys).eraseDups := by
  have hnodup : (higher.keys.removeAll ks).Nodup := higher.nodup_keys.filter _
  have hnew : higher.keys.filter (fun k => !lower.keys.contains k) = higher.keys.removeAll ks := by
    refine List.filter_congr fun k _ => ?_
    rw [h, Bool.eq_iff_iff]
    simp
  rw [keys_merge, List.eraseDups_append, hnew, eraseDups_of_nodup hnodup, h]

namespace Draft

/-! ## Merging -/

theorem layout_merge_assoc (a b c : DraftLayout) : (a.merge b).merge c = a.merge (b.merge c) := by
  simp only [DraftLayout.merge, Option.or_assoc]

theorem merge_assoc (a b c : Draft) : (a.merge b).merge c = a.merge (b.merge c) := by
  simp only [merge, Tables.merge, layout_merge_assoc, Table.merge_assoc, List.append_assoc]

theorem empty_merge (d : Draft) : merge {} d = d := by
  simp [merge, DraftLayout.merge, Tables.merge, Table.merge_left_empty]

theorem merge_empty (d : Draft) : d.merge {} = d := by
  simp [merge, DraftLayout.merge, Tables.merge]

/-- the layers one over another, the first one lowest -/
def mergeAll (layers : List Draft) : Draft := layers.foldl merge default

theorem mergeAll_snoc (layers : List Draft) (d : Draft) : mergeAll (layers ++ [d]) = (mergeAll layers).merge d := by
  simp [mergeAll, List.foldl_append]

theorem mergeAll_cons (d : Draft) (layers : List Draft) : mergeAll (d :: layers) = layers.foldl merge d := by
  have hempty : (default : Draft) = {} := rfl
  rw [mergeAll, List.foldl_cons, hempty, empty_merge]

/-! ## What comes of a list of layers -/

/-- the value of the last layer that sets it -/
def lastSet? {β : Type} (layers : List Draft) (value : Draft → Option β) : Option β := layers.reverse.findSome? value

theorem lastSet?_snoc {β : Type} (layers : List Draft) (d : Draft) (value : Draft → Option β) :
    lastSet? (layers ++ [d]) value = (value d).or (lastSet? layers value) := by
  rw [lastSet?, List.reverse_append, List.findSome?_append]
  simp [lastSet?]

/-- each layout value is that of the last layer that sets it -/
def lastLayout (layers : List Draft) : DraftLayout where
  indentWidth := lastSet? layers (·.layout.indentWidth)
  terminator := lastSet? layers (·.layout.terminator)
  commentPrefix := lastSet? layers (·.layout.commentPrefix)
  continuationMarker := lastSet? layers (·.layout.continuationMarker)
  blockOpener := lastSet? layers (·.layout.blockOpener)
  blockStringDelimiters := lastSet? layers (·.layout.blockStringDelimiters)
  continuationKeywords := lastSet? layers (·.layout.continuationKeywords)

theorem lastLayout_snoc (layers : List Draft) (d : Draft) :
    lastLayout (layers ++ [d]) = (lastLayout layers).merge d.layout := by
  simp only [lastLayout, DraftLayout.merge, lastSet?_snoc]

/-- what the layers come to, one over another -/
structure Layered (layers : List Draft) (d : Draft) : Prop where
  layout : d.layout = lastLayout layers
  /-- the value of the last layer that has the key -/
  value : ∀ kind k, (d.tables.table kind).get? k = lastSet? layers fun l => (l.tables.table kind).get? k
  /-- each key stands where it first appears -/
  keys : ∀ kind, (d.tables.table kind).keys = (layers.flatMap fun l => (l.tables.table kind).keys).eraseDups
  sources : d.sources = layers.flatMap Draft.sources
  warnings : d.warnings = layers.flatMap Draft.warnings

theorem layered_nil : Layered [] {} := by
  refine ⟨rfl, fun kind k => ?_, fun kind => ?_, rfl, rfl⟩
  · cases kind <;> rfl
  · cases kind <;> rfl

/-- one more layer over what the others come to -/
theorem Layered.merge {layers : List Draft} {d : Draft} (h : Layered layers d) (layer : Draft) :
    Layered (layers ++ [layer]) (d.merge layer) := by
  refine ⟨?_, fun kind k => ?_, fun kind => ?_, ?_, ?_⟩
  · rw [lastLayout_snoc, ← h.layout]
    rfl
  · show ((d.tables.merge layer.tables).table kind).get? k = _
    rw [Tables.table_merge, Table.get?_merge, h.value, lastSet?_snoc]
  · show ((d.tables.merge layer.tables).table kind).keys = _
    rw [Tables.table_merge, List.flatMap_append, List.flatMap_singleton]
    exact Table.keys_merge_eq_eraseDups _ (h.keys kind)
  · rw [List.flatMap_append, List.flatMap_singleton, ← h.sources]
    rfl
  · rw [List.flatMap_append, List.flatMap_singleton, ← h.warnings]
    rfl

theorem layered_mergeAll (layers : List Draft) : Layered layers (mergeAll layers) := by
  induction layers using List.reverseRecOn with
  | nil => exact layered_nil
  | append_singleton layers layer ih => rw [mergeAll_snoc]; exact ih.merge layer

end Draft

/-! ## Layers from documents -/

/-- the layers of the documents, up to the first document that cannot be loaded -/
def Loading.layers (tree : FileTree) : List Source → List Draft
  | [] => []
  | s :: rest =>
    match tree.readDraft s with
    | .error _ => []
    | .ok none => layers tree rest
    | .ok (some layer) => layer :: layers tree rest

/-- loading puts the layers of the documents one over another -/
theorem Loading.draft_load (tree : FileTree) (d : Draft) (sources : List Source) :
    (load tree d sources).draft = (layers tree sources).foldl Draft.merge d := by
  induction sources generalizing d with
  | nil => rfl
  | cons s rest ih =>
    rw [load, layers]
    cases tree.readDraft s with
    | error fault => rfl
    | ok layer? =>
      cases layer? with
      | none => exact ih d
      | some layer => exact ih (d.merge layer)

/-- **The last layer wins.** Merging layers is associative and the empty layer changes nothing. Whatever the layers, each
value is that of the last one that sets it, and each key stands where it first appears; so it is with the documents that
are loaded over the standard settings, none of which disturbs the order of the standard reserved words. -/
theorem Draft.layers_last_wins :
    (∀ a b c : Draft, (a.merge b).merge c = a.merge (b.merge c)) ∧
    (∀ d : Draft, merge {} d = d ∧ d.merge {} = d) ∧
    (∀ layers, Layered layers (mergeAll layers)) ∧
    ∀ (tree : FileTree) (found extra : List Source),
      Layered (standard :: Loading.layers tree (found ++ extra)) (Loading.merged tree found extra).draft ∧
        standard.tables.reservedWords.keys <+: (Loading.merged tree found extra).draft.tables.reservedWords.keys := by
  refine ⟨merge_assoc, fun d => ⟨empty_merge d, merge_empty d⟩, layered_mergeAll, fun tree found extra => ?_⟩
  have hlayered : Layered (standard :: Loading.layers tree (found ++ extra)) (Loading.merged tree found extra).draft := by
    rw [Loading.merged, Loading.draft_load, ← mergeAll_cons]
    exact layered_mergeAll _
  refine ⟨hlayered, ?_⟩
  have hkeys := hlayered.keys .reservedWords
  rw [List.flatMap_cons, List.eraseDups_append, eraseDups_of_nodup (Table.nodup_keys _)] at hkeys
  exact ⟨_, hkeys.symm⟩

end Linewise
