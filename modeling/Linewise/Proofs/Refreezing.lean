/-
Settings in force, written as a layer and put in force again.

A document of settings in force sets every value, so reading it as a layer misses nothing and has nothing to warn about
(`Draft.ofEntries_toEntries`). Put over the standard settings it gives the same settings again
(`Draft.freeze_merge_asLayer`): no value that is in force is dropped (`Draft.settled_thaw`), and since the tables begin with
the standard keys, no key changes its place.
-/
import Linewise.Config.Document
import Linewise.Proofs.Frozen
import Linewise.Proofs.Sanitizing

namespace Linewise

/-! ## Tables over the standard ones -/

namespace Tables

/-- the standard keys come first, in their order -/
def ExtendStandard (t : Tables) : Prop := ∀ kind, (standard.table kind).keys <+: (t.table kind).keys

theorem extendStandard_standard : standard.ExtendStandard := fun _ => List.prefix_refl _

theorem table_merge (lower higher : Tables) (kind : TableKind) :
    (lower.merge higher).table kind = (lower.table kind).merge (higher.table kind) := by
  cases kind <;> rfl

/-- higher tables put their new keys after the others -/
theorem ExtendStandard.merge {lower : Tables} (h : lower.ExtendStandard) (higher : Tables) :
    (lower.merge higher).ExtendStandard := by
  intro kind
  rw [table_merge, Table.keys_merge]
  exact (h kind).trans (List.prefix_append _ _)

/-- what the standard tables hold is there already, in its place -/
theorem ExtendStandard.standard_merge {t : Tables} (h : t.ExtendStandard) : standard.merge t = t := by
  have hwords := Table.merge_of_isPrefix (h .reservedWords)
  have hmethods := Table.merge_of_isPrefix (h .functionsToMethods)
  have hfunctions := Table.merge_of_isPrefix (h .functionsToFunctions)
  have hspecial := Table.merge_of_isPrefix (h .specialMethods)
  simp only [table] at hwords hmethods hfunctions hspecial
  rw [Tables.merge, hwords, hmethods, hfunctions, hspecial]

end Tables

/-! ## What freezing leaves -/

namespace Draft

theorem excess?_of_freeze {d : Draft} {c : Config} (h : d.freeze = .ok c) : excess? d.tables.reservedWords = none :=
  (fault?_eq_none_iff.1 (fault?_of_freeze h)).2

theorem isPattern_of_freeze {d : Draft} {c : Config} (h : d.freeze = .ok c) :
    ∀ k ∈ c.tables.reservedWords.keys, isPattern k = true := by
  intro k hk
  rw [eq_of_freeze h] at hk
  change k ∈ d.prune.tables.reservedWords.keys at hk
  rw [reservedWords_prune (excess?_of_freeze h), Table.keys_filterKeys] at hk
  exact (List.mem_filter.1 hk).2

/-- no value of the draft is one that sanitizing drops -/
structure Settled (d : Draft) : Prop where
  indentWidth : ∀ n, d.layout.indentWidth = some n → 1 ≤ n
  continuationMarker : d.layout.continuationMarker ≠ some []
  blockStringDelimiters : ∀ ds, d.layout.blockStringDelimiters = some ds → ∀ e ∈ ds, e ≠ []
  reservedWords : ∀ k ∈ examinedKeys d.tables.reservedWords, keyFault? k = none

/-- its unit needs no warning -/
theorem Settled.endlessUnit?_eq_none {d : Draft} (h : d.Settled) : endlessUnit? d.layout.indentWidth = none := by
  cases hn : d.layout.indentWidth with
  | none => rfl
  | some n => exact endlessUnit?_of_one_le (h.indentWidth n hn)

/-- then sanitizing changes nothing, and warns of nothing -/
theorem Settled.sanitize_eq {d : Draft} (h : d.Settled) : d.sanitize = d := by
  rw [sanitize_eq_prune h.endlessUnit?_eq_none]
  have hindent : sanitizeIndent d.layout.indentWidth = (d.layout.indentWidth, []) := by
    cases hn : d.layout.indentWidth with
    | none => rfl
    | some n => exact sanitizeIndent_of_one_le (h.indentWidth n hn)
  have hmarker : sanitizeMarker d.layout.continuationMarker = (d.layout.continuationMarker, []) :=
    if_neg h.continuationMarker
  have hdelimiters : sanitizeDelimiters d.layout.blockStringDelimiters = (d.layout.blockStringDelimiters, []) := by
    cases hds : d.layout.blockStringDelimiters with
    | none => rfl
    | some ds => exact sanitizeDelimiters_of_ne_nil (h.blockStringDelimiters ds hds)
  have hwords : d.prune.tables.reservedWords = d.tables.reservedWords := by
    show d.tables.reservedWords.filterKeys (keepsKey d.tables.reservedWords) = _
    refine Table.filterKeys_eq_self fun k _ => ?_
    by_contra hdrop
    have hexamined := (mem_examinedKeys_of_not_keepsKey (by simpa using hdrop)).1
    rw [keepsKey_of_mem hexamined, isPattern, h.reservedWords k hexamined] at hdrop
    exact hdrop rfl
  have hwarnings : (examinedKeys d.tables.reservedWords).filterMap keyWarning? = [] :=
    List.filterMap_eq_nil_iff.2 fun k hk => by
      rw [keyWarning?, h.reservedWords k hk]
      rfl
  simp only [prune] at hwords
  simp only [prune, hindent, hmarker, hdelimiters, hwords, hwarnings, List.append_nil]

/-- a draft with nothing to drop can only be kept from being put in force by a key that asks for too much -/
theorem Settled.freeze_eq {d : Draft} (h : d.Settled) (hexcess : excess? d.tables.reservedWords = none) :
    d.freeze = .ok d.complete := by
  rw [Draft.freeze_eq (fault?_eq_none_iff.2 ⟨h.endlessUnit?_eq_none, hexcess⟩), h.sanitize_eq]

/-- no key in force keeps the settings from being frozen again -/
theorem excess?_thaw {d : Draft} {c : Config} (h : d.freeze = .ok c) : excess? c.thaw.tables.reservedWords = none := by
  refine excess?_eq_none_iff.2 fun k hk => ?_
  rw [Option.isNone_iff_eq_none.1 (isPattern_of_freeze h k hk)]
  rfl

/-- no value in force is dropped again -/
theorem settled_thaw {d : Draft} {c : Config} (h : d.freeze = .ok c) : c.thaw.Settled := by
  have hfrozen : c.IsFrozen := ⟨d, h⟩
  constructor
  case indentWidth =>
    rintro n ⟨rfl⟩
    exact Int.ofNat_le.2 hfrozen.indentWidth_pos
  case continuationMarker => exact fun hempty => hfrozen.continuationMarker_ne_nil (Option.some.inj hempty)
  case blockStringDelimiters =>
    rintro ds ⟨rfl⟩
    exact hfrozen.delimiter_ne_nil
  case reservedWords =>
    intro k hk
    exact Option.isNone_iff_eq_none.1 (isPattern_of_freeze h k ((List.takeWhile_sublist _).mem hk))

/-- freezing drops none of the standard keys -/
theorem extendStandard_of_freeze {d : Draft} {c : Config} (h : d.freeze = .ok c) (hd : d.tables.ExtendStandard) :
    c.tables.ExtendStandard := by
  have hstandard : Tables.standard.reservedWords.keys.filter isPattern = Tables.standard.reservedWords.keys := by
    decide +kernel
  have hwords : c.tables.reservedWords = d.tables.reservedWords.filterKeys isPattern := by
    rw [eq_of_freeze h]
    exact reservedWords_prune (excess?_of_freeze h)
  intro kind
  cases kind with
  | reservedWords =>
    show Tables.standard.reservedWords.keys <+: c.tables.reservedWords.keys
    rw [hwords, Table.keys_filterKeys, ← hstandard]
    exact (hd .reservedWords).filter isPattern
  | functionsToMethods =>
    rw [eq_of_freeze h]
    exact hd .functionsToMethods
  | functionsToFunctions =>
    rw [eq_of_freeze h]
    exact hd .functionsToFunctions
  | specialMethods =>
    rw [eq_of_freeze h]
    exact hd .specialMethods

end Draft

/-! ## The layer of settings in force -/

/-- the settings as a layer from a source -/
def Config.asLayer (c : Config) (source : Option Text) : Draft where
  layout := c.layout.thaw
  tables := c.tables
  sources := source.toList

namespace Draft

theorem textEntries_toEntries (location : Text) (es : List (Text × Text)) :
    Checked.textEntries location (es.map fun e => (e.1, .text e.2)) = (es, []) := by
  induction es with
  | nil => rfl
  | cons e rest ih => rw [List.map_cons, Checked.textEntries, ih]

theorem texts_map (location : Text) (ts : List Text) : Checked.texts location (ts.map .text) = (ts, []) := by
  induction ts with
  | nil => rfl
  | cons t rest ih => rw [List.map_cons, Checked.texts, ih]

/-- a table is read back from its section -/
theorem mapping_toEntries {key : Text} {es : Entries} {t : Table Text}
    (h : es.get? key = some (.table t.toEntries)) : Checked.mapping key es = (t, []) := by
  have htable : Table.ofList t.entries = t := Table.merge_left_empty t
  rw [Checked.mapping, h]
  show ((Table.ofList (Checked.textEntries (Checked.bracketed key) t.toEntries).1, _) : Checked.Result (Table Text)) = _
  rw [Table.toEntries, textEntries_toEntries, htable]

/-- a list of texts is read back from its value -/
theorem texts?_toEntries (context : Text) {key : Text} {es : Entries} {ts : List Text}
    (h : es.get? key = some (.list (ts.map .text))) : Checked.texts? context key es = (some ts, []) := by
  rw [Checked.texts?, h]
  show ((some (Checked.texts _ (ts.map .text)).1, _) : Checked.Result (Option (List Text))) = _
  rw [texts_map]

/-- every layout value is found in its section, and nothing else is -/
theorem layout_toEntries (l : Layout) : DraftLayout.ofEntries l.toEntries = (l.thaw, []) := by
  have hdelimiters (context : Text) :
      Checked.texts? context LayoutKey.blockStringDelimiters.name l.toEntries = (some l.blockStringDelimiters, []) :=
    texts?_toEntries context rfl
  have hkeywords (context : Text) :
      Checked.texts? context LayoutKey.continuationKeywords.name l.toEntries = (some l.continuationKeywords, []) :=
    texts?_toEntries context rfl
  rw [DraftLayout.ofEntries]
  simp only [hdelimiters, hkeywords]
  rfl

theorem tables_toEntries (c : Config) : Tables.ofEntries c.toEntries = (c.tables, []) := by
  have hmapping (kind : TableKind) : Checked.mapping kind.name c.toEntries = (c.tables.table kind, []) := by
    have hget : c.toEntries.get? kind.name = some (.table (c.tables.table kind).toEntries) := by cases kind <;> rfl
    exact mapping_toEntries hget
  rw [Tables.ofEntries]
  simp only [hmapping]
  rfl

/-- **The document of settings in force is read as a layer** without a warning, and the layer is the settings. -/
theorem ofEntries_toEntries (c : Config) (source : Option Text) :
    Draft.ofEntries c.toEntries source = .ok (c.asLayer source) := by
  have htable : Checked.table c.toEntries layoutSection = c.layout.toEntries := rfl
  have hknown : Checked.unknownKeys "top level" knownSections c.toEntries = [] := rfl
  rw [Draft.ofEntries, htable, layout_toEntries, tables_toEntries, hknown]
  rfl

section

variable {d : Draft} {c : Config} (h : d.freeze = .ok c) (source : Option Text)
include h

/-- nothing is dropped from settings in force -/
theorem settled_asLayer : (c.asLayer source).Settled := by
  have hsettled := settled_thaw h
  exact ⟨hsettled.indentWidth, hsettled.continuationMarker, hsettled.blockStringDelimiters, hsettled.reservedWords⟩

/-- **The layer of settings in force, put over the standard settings, gives the same settings**, without a warning. -/
theorem freeze_merge_asLayer (hd : d.tables.ExtendStandard) :
    (standard.merge (c.asLayer source)).freeze = .ok { c with sources := source.toList, warnings := [] } := by
  have htables : Tables.standard.merge c.tables = c.tables := (extendStandard_of_freeze h hd).standard_merge
  have hmerge : standard.merge (c.asLayer source) = c.asLayer source := by
    show Draft.mk c.layout.thaw (Tables.standard.merge c.tables) source.toList [] = _
    rw [htables]
    rfl
  have hexcess : excess? (c.asLayer source).tables.reservedWords = none := excess?_thaw h
  rw [hmerge, (settled_asLayer h source).freeze_eq hexcess]
  rfl

end

end Draft

end Linewise
