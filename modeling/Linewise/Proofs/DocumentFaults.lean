/-
What a document sets, and what is said about the rest of it.

A `Spot` is a place of a document at which something can be wrong, and `Fault` says what is, one rule for each kind of
fault. `ofEntries_eq_ok_iff` says that a document is a layer just if every value that a fault quotes can be quoted; the
warnings of the layer are then those about its faults, one for each spot, and the layer holds exactly what is left
(`Holds`). There is one gap in the rules: no fault is found with a layout section that is no table. Its values are lost
without a word (`layout_that_is_no_table_unnoticed`).
-/
import Linewise.Proofs.Remarks
import Mathlib.Data.List.Nodup

namespace Linewise

/-! ## Documents -/

/-- the keys are distinct, and no value is absent -/
structure Entries.IsPlain (es : Entries) : Prop where
  nodup : (es.map Prod.fst).Nodup
  present : ∀ e ∈ es, e.2 ≠ .absent

/-- entries as they are read from the text of a document -/
structure IsDocument (es : Entries) : Prop where
  plain : es.IsPlain
  sections : ∀ key inner, (key, .table inner) ∈ es → Entries.IsPlain inner

/-- with distinct keys the entries and what is found under a key are the same -/
theorem Entries.IsPlain.get?_eq_some_iff {es : Entries} (h : es.IsPlain) {key : Text} {v : Value} :
    es.get? key = some v ↔ (key, v) ∈ es := by
  constructor
  · intro hget
    rw [Entries.get?] at hget
    split at hget
    · cases hget
    · cases hget
    · rename_i hlookup
      obtain rfl := Option.some.inj hget
      obtain ⟨before, after, rfl, -⟩ := List.lookup_eq_some_iff.1 hlookup
      exact List.mem_append_right _ List.mem_cons_self
  · intro hmem
    obtain ⟨before, after, rfl⟩ := List.append_of_mem hmem
    have hfirst : ∀ e ∈ before, (key != e.1) = true := by
      have hnodup := h.nodup
      rw [List.map_append, List.nodup_append] at hnodup
      exact fun e he => bne_iff_ne.2 fun hkey =>
        hnodup.2.2 e.1 (List.mem_map_of_mem he) key List.mem_cons_self hkey.symm
    have hlookup : List.lookup key (before ++ (key, v) :: after) = some v :=
      List.lookup_eq_some_iff.2 ⟨before, after, rfl, hfirst⟩
    have hpresent := h.present _ hmem
    rw [Entries.get?, hlookup]
    cases v with
    | absent => exact absurd rfl hpresent
    | _ => rfl

/-! ## Faults -/

/-- what kind of value a layout setting takes -/
inductive SettingKind where
  | number
  | text
  | texts
deriving DecidableEq, Repr

namespace SettingKind

/-- the kind as remarks name it -/
def name : SettingKind → Text
  | .number => "int"
  | .text => "string"
  | .texts => "list"

/-- values of the kind; a truth value is no number -/
def accepts : SettingKind → Value → Bool
  | .number, .int _ => true
  | .text, .text _ => true
  | .texts, .list _ => true
  | _, _ => false

end SettingKind

def LayoutKey.kind : LayoutKey → SettingKind
  | .indentWidth => .number
  | .terminator => .text
  | .commentPrefix => .text
  | .continuationMarker => .text
  | .blockOpener => .text
  | .blockStringDelimiters => .texts
  | .continuationKeywords => .texts

def Value.isText : Value → Bool
  | .text _ => true
  | _ => false

/-- a place of a document at which something can be wrong -/
inductive Spot where
  /-- a key of the document -/
  | section (key : Text)
  /-- a key of the layout section -/
  | setting (key : Text)
  /-- an item of a list of the layout section -/
  | item (key : LayoutKey) (index : Nat)
  /-- an entry of a table -/
  | entry (kind : TableKind) (key : Text)
deriving DecidableEq, Repr

/-- the place of a setting, as remarks name it -/
def LayoutKey.place (key : LayoutKey) : Text := Checked.place (Checked.bracketed layoutSection) key.name

/-- what is wrong at a spot of the document -/
inductive Fault (es : Entries) : Spot → Checked.Remark → Prop
  | unknownSection {key : Text} {v : Value} (hmem : (key, v) ∈ es) (hkey : key ∉ knownSections) :
    Fault es (.section key) (.unknownKey "top level" key)
  | noTable {kind : TableKind} {v : Value} (hmem : (kind.name, v) ∈ es) (hkind : ∀ inner, v ≠ .table inner) :
    Fault es (.section kind.name) (.wrongKind "table" (Checked.bracketed kind.name) v)
  | unknownSetting {inner : Entries} {key : Text} {v : Value} (hlayout : (layoutSection, .table inner) ∈ es)
    (hmem : (key, v) ∈ inner) (hkey : key ∉ LayoutKey.all.map LayoutKey.name) :
    Fault es (.setting key) (.unknownKey (Checked.bracketed layoutSection) key)
  | wrongSetting {inner : Entries} {key : LayoutKey} {v : Value} (hlayout : (layoutSection, .table inner) ∈ es)
    (hmem : (key.name, v) ∈ inner) (hkind : key.kind.accepts v = false) :
    Fault es (.setting key.name) (.wrongKind key.kind.name key.place v)
  | strayItem {inner : Entries} {key : LayoutKey} {items : List Value} {index : Nat} {v : Value}
    (hlayout : (layoutSection, .table inner) ∈ es) (hmem : (key.name, .list items) ∈ inner)
    (hkind : key.kind = .texts) (hitem : items[index]? = some v) (hstray : v.isText = false) :
    Fault es (.item key index) (.strayItem key.place v)
  | strayEntry {kind : TableKind} {inner : Entries} {key : Text} {v : Value}
    (hsection : (kind.name, .table inner) ∈ es) (hmem : (key, v) ∈ inner) (hstray : v.isText = false) :
    Fault es (.entry kind key) (.strayEntry (Checked.place (Checked.bracketed kind.name) key) v)

/-! ## Listing the faults -/

/-- the faults that some parts of a document are, the bad ones -/
def flagged {α : Type} (bad : α → Bool) (fault : α → Spot × Checked.Remark) (parts : List α) :
    List (Spot × Checked.Remark) :=
  (parts.filter bad).map fault

/-- the faults that a scan for unknown keys finds -/
def unknownFaults (spot : Text → Spot) (context : Text) (known : List Text) (es : Entries) :
    List (Spot × Checked.Remark) :=
  flagged (fun e => !known.contains e.1) (fun e => (spot e.1, .unknownKey context e.1)) es

/-- the faults of the items of a list -/
def itemFaults (key : LayoutKey) (items : List Value) : List (Spot × Checked.Remark) :=
  flagged (fun x => !x.1.isText) (fun x => (.item key x.2, .strayItem key.place x.1)) items.zipIdx

/-- the faults of the entries of a table -/
def entryFaults (kind : TableKind) (inner : Entries) : List (Spot × Checked.Remark) :=
  flagged (fun e => !e.2.isText)
    (fun e => (.entry kind e.1, .strayEntry (Checked.place (Checked.bracketed kind.name) e.1) e.2)) inner

/-- the faults of a setting, in the layout section -/
def settingFaults (inner : Entries) (key : LayoutKey) : List (Spot × Checked.Remark) :=
  match inner.get? key.name with
  | none => []
  | some v =>
    if key.kind.accepts v then
      match v with
      | .list items => itemFaults key items
      | _ => []
    else [(.setting key.name, .wrongKind key.kind.name key.place v)]

/-- the faults of a table -/
def tableFaults (es : Entries) (kind : TableKind) : List (Spot × Checked.Remark) :=
  match es.get? kind.name with
  | none => []
  | some (.table inner) => entryFaults kind inner
  | some v => [(.section kind.name, .wrongKind "table" (Checked.bracketed kind.name) v)]

/-- the faults of the layout section -/
def layoutFaults (inner : Entries) : List (Spot × Checked.Remark) :=
  unknownFaults .setting (Checked.bracketed layoutSection) (LayoutKey.all.map LayoutKey.name) inner ++
    LayoutKey.all.flatMap (settingFaults inner)

/-- the faults of a document, in the order in which they are found -/
def faults (es : Entries) : List (Spot × Checked.Remark) :=
  unknownFaults .section "top level" knownSections es ++ layoutFaults (Checked.table es layoutSection) ++
    TableKind.all.flatMap (tableFaults es)

/-! ### The remarks are those about the faults -/

namespace Checked

theorem remarks_unknownKeys (spot : Text → Spot) (context : Text) (known : List Text) (es : Entries) :
    (unknownFaults spot context known es).map Prod.snd = unknownKeys context known es := by
  rw [unknownFaults, flagged, unknownKeys, List.map_map]
  rfl

theorem remarks_texts (key : LayoutKey) (items : List Value) :
    (itemFaults key items).map Prod.snd = (texts key.place items).2 := by
  rw [itemFaults, flagged]
  generalize 0 = start
  induction items generalizing start with
  | nil => rfl
  | cons v rest ih =>
    have hrest := ih (start + 1)
    rw [List.zipIdx_cons, List.filter_cons]
    cases v with
    | text t => exact hrest
    | _ => exact congrArg (List.cons _) hrest

theorem remarks_textEntries (kind : TableKind) (inner : Entries) :
    (entryFaults kind inner).map Prod.snd = (textEntries (bracketed kind.name) inner).2 := by
  rw [entryFaults, flagged]
  induction inner with
  | nil => rfl
  | cons e rest ih =>
    obtain ⟨k, v⟩ := e
    rw [List.filter_cons]
    cases v with
    | text t => exact ih
    | _ => exact congrArg (List.cons _) ih

theorem remarks_mapping (es : Entries) (kind : TableKind) :
    (tableFaults es kind).map Prod.snd = (mapping kind.name es).2 := by
  rw [tableFaults, mapping]
  cases es.get? kind.name with
  | none => rfl
  | some v =>
    cases v with
    | table inner => exact remarks_textEntries kind inner
    | _ => rfl

section

variable (inner : Entries) (key : LayoutKey)

theorem remarks_int? (h : key.kind = .number) :
    (settingFaults inner key).map Prod.snd = (int? (bracketed layoutSection) key.name inner).2 := by
  rw [settingFaults, int?, h]
  cases inner.get? key.name with
  | none => rfl
  | some v => cases v <;> rfl

theorem remarks_text? (h : key.kind = .text) :
    (settingFaults inner key).map Prod.snd = (text? (bracketed layoutSection) key.name inner).2 := by
  rw [settingFaults, text?, h]
  cases inner.get? key.name with
  | none => rfl
  | some v => cases v <;> rfl

theorem remarks_texts? (h : key.kind = .texts) :
    (settingFaults inner key).map Prod.snd = (texts? (bracketed layoutSection) key.name inner).2 := by
  rw [settingFaults, texts?, h]
  cases inner.get? key.name with
  | none => rfl
  | some v =>
    cases v with
    | list items => exact remarks_texts key items
    | _ => rfl

end

end Checked

theorem remarks_layout (inner : Entries) : (layoutFaults inner).map Prod.snd = (DraftLayout.ofEntries inner).2 := by
  have hnumber := Checked.remarks_int? inner
  have htext := Checked.remarks_text? inner
  have htexts := Checked.remarks_texts? inner
  rw [layoutFaults, List.map_append, Checked.remarks_unknownKeys, DraftLayout.ofEntries]
  simp only [LayoutKey.all, List.flatMap_cons, List.flatMap_nil, List.map_append, List.append_nil, List.append_assoc]
  rw [hnumber _ rfl, htext _ rfl, htext _ rfl, htext _ rfl, htext _ rfl, htexts _ rfl, htexts _ rfl]

theorem remarks_tables (es : Entries) :
    (TableKind.all.flatMap (tableFaults es)).map Prod.snd = (Tables.ofEntries es).2 := by
  simp only [TableKind.all, List.flatMap_cons, List.flatMap_nil, List.map_append, List.append_nil,
    Checked.remarks_mapping, Tables.ofEntries, List.append_assoc]

/-! ### The faults that are listed -/

theorem mem_flagged_iff {α : Type} {bad : α → Bool} {fault : α → Spot × Checked.Remark} {parts : List α}
    {x : Spot × Checked.Remark} : x ∈ flagged bad fault parts ↔ ∃ p ∈ parts, bad p = true ∧ x = fault p := by
  simp only [flagged, List.mem_map, List.mem_filter, and_assoc, eq_comm]

theorem mem_unknownFaults_iff {spot : Text → Spot} {context : Text} {known : List Text} {es : Entries}
    {x : Spot × Checked.Remark} :
    x ∈ unknownFaults spot context known es ↔
      ∃ key v, (key, v) ∈ es ∧ key ∉ known ∧ x = (spot key, .unknownKey context key) := by
  simp [unknownFaults, mem_flagged_iff]

theorem mem_itemFaults_iff {key : LayoutKey} {items : List Value} {x : Spot × Checked.Remark} :
    x ∈ itemFaults key items ↔
      ∃ index v, items[index]? = some v ∧ v.isText = false ∧ x = (.item key index, .strayItem key.place v) := by
  simp only [itemFaults, mem_flagged_iff, Prod.exists, List.mem_zipIdx_iff_getElem?, Bool.not_eq_true']
  exact exists_comm

theorem mem_entryFaults_iff {kind : TableKind} {inner : Entries} {x : Spot × Checked.Remark} :
    x ∈ entryFaults kind inner ↔
      ∃ key v, (key, v) ∈ inner ∧ v.isText = false ∧
        x = (.entry kind key, .strayEntry (Checked.place (Checked.bracketed kind.name) key) v) := by
  simp only [entryFaults, mem_flagged_iff, Prod.exists, Bool.not_eq_true']

theorem mem_settingFaults_iff {inner : Entries} (h : inner.IsPlain) {key : LayoutKey} {x : Spot × Checked.Remark} :
    x ∈ settingFaults inner key ↔
      (∃ v, (key.name, v) ∈ inner ∧ key.kind.accepts v = false ∧
        x = (.setting key.name, .wrongKind key.kind.name key.place v)) ∨
      (∃ items, (key.name, .list items) ∈ inner ∧ key.kind = .texts ∧ x ∈ itemFaults key items) := by
  simp only [settingFaults, ← h.get?_eq_some_iff]
  cases inner.get? key.name with
  | none => simp
  | some v =>
    cases key.kind <;> cases v <;> simp [SettingKind.accepts]

theorem mem_tableFaults_iff {es : Entries} (h : es.IsPlain) {kind : TableKind} {x : Spot × Checked.Remark} :
    x ∈ tableFaults es kind ↔
      (∃ v, (kind.name, v) ∈ es ∧ (∀ inner, v ≠ .table inner) ∧
        x = (.section kind.name, .wrongKind "table" (Checked.bracketed kind.name) v)) ∨
      (∃ inner, (kind.name, .table inner) ∈ es ∧ x ∈ entryFaults kind inner) := by
  simp only [tableFaults, ← h.get?_eq_some_iff]
  cases es.get? kind.name with
  | none => simp
  | some v => cases v <;> simp

theorem LayoutKey.mem_all (key : LayoutKey) : key ∈ all := by cases key <;> decide

theorem TableKind.mem_all (kind : TableKind) : kind ∈ all := by cases kind <;> decide

section

variable {es : Entries} (h : IsDocument es)
include h

/-- what is read as the layout section is the table under its key -/
theorem mem_layout_iff {e : Text × Value} :
    e ∈ Checked.table es layoutSection ↔ ∃ inner, (layoutSection, .table inner) ∈ es ∧ e ∈ inner := by
  simp only [Checked.table, ← h.plain.get?_eq_some_iff]
  cases es.get? layoutSection with
  | none => simp
  | some v => cases v <;> simp

theorem isPlain_layout : (Checked.table es layoutSection).IsPlain := by
  rw [Checked.table]
  split
  · rename_i inner hinner
    exact h.sections _ _ (h.plain.get?_eq_some_iff.1 hinner)
  · exact ⟨List.nodup_nil, fun e he => absurd he List.not_mem_nil⟩

/-- the list holds the faults of the document and nothing else -/
theorem mem_faults_iff {spot : Spot} {r : Checked.Remark} : (spot, r) ∈ faults es ↔ Fault es spot r := by
  simp only [faults, layoutFaults, List.mem_append, List.mem_flatMap, mem_unknownFaults_iff,
    mem_settingFaults_iff (isPlain_layout h), mem_tableFaults_iff h.plain, mem_itemFaults_iff, mem_entryFaults_iff,
    mem_layout_iff h]
  constructor
  · rintro ((⟨key, v, hmem, hkey, ⟨⟩⟩ | ⟨key, v, ⟨inner, hlayout, hmem⟩, hkey, ⟨⟩⟩ |
      ⟨key, -, ⟨v, ⟨inner, hlayout, hmem⟩, hkind, ⟨⟩⟩ | ⟨items, ⟨inner, hlayout, hmem⟩, hkind, index, v, hitem, hstray, ⟨⟩⟩⟩) |
      ⟨kind, -, ⟨v, hmem, hkind, ⟨⟩⟩ | ⟨inner, hsection, key, v, hmem, hstray, ⟨⟩⟩⟩)
    · exact .unknownSection hmem hkey
    · exact .unknownSetting hlayout hmem hkey
    · exact .wrongSetting hlayout hmem hkind
    · exact .strayItem hlayout hmem hkind hitem hstray
    · exact .noTable hmem hkind
    · exact .strayEntry hsection hmem hstray
  · intro hfault
    cases hfault with
    | unknownSection hmem hkey => exact .inl (.inl ⟨_, _, hmem, hkey, rfl⟩)
    | unknownSetting hlayout hmem hkey => exact .inl (.inr (.inl ⟨_, _, ⟨_, hlayout, hmem⟩, hkey, rfl⟩))
    | @wrongSetting inner key v hlayout hmem hkind =>
      exact .inl (.inr (.inr ⟨key, key.mem_all, .inl ⟨v, ⟨inner, hlayout, hmem⟩, hkind, rfl⟩⟩))
    | @strayItem inner key items index v hlayout hmem hkind hitem hstray =>
      exact .inl (.inr (.inr ⟨key, key.mem_all, .inr ⟨items, ⟨inner, hlayout, hmem⟩, hkind, index, v, hitem, hstray, rfl⟩⟩))
    | @noTable kind v hmem hkind => exact .inr ⟨kind, kind.mem_all, .inl ⟨v, hmem, hkind, rfl⟩⟩
    | @strayEntry kind inner key v hsection hmem hstray =>
      exact .inr ⟨kind, kind.mem_all, .inr ⟨inner, hsection, key, v, hmem, hstray, rfl⟩⟩

end

/-! ### One fault for each spot -/

theorem nodup_flagged {α β : Type} (bad : α → Bool) {fault : α → Spot × Checked.Remark} {spot : β → Spot} {key : α → β}
    {parts : List α} (hspot : Function.Injective spot) (hfault : ∀ p, (fault p).1 = spot (key p))
    (h : (parts.map key).Nodup) : ((flagged bad fault parts).map Prod.fst).Nodup := by
  have hmap : (flagged bad fault parts).map Prod.fst = ((parts.filter bad).map key).map spot := by
    simp only [flagged, List.map_map, Function.comp_def, hfault]
  rw [hmap]
  exact (h.sublist (List.filter_sublist.map key)).map hspot

theorem nodup_unknownFaults {spot : Text → Spot} (hspot : Function.Injective spot) (context : Text) (known : List Text)
    {es : Entries} (h : es.IsPlain) : ((unknownFaults spot context known es).map Prod.fst).Nodup :=
  nodup_flagged _ hspot (fun _ => rfl) h.nodup

theorem nodup_itemFaults (key : LayoutKey) (items : List Value) : ((itemFaults key items).map Prod.fst).Nodup := by
  refine @nodup_flagged _ _ _ _ (Spot.item key) Prod.snd _ ?_ (fun _ => rfl) ?_
  · intro i j hij
    exact (Spot.item.inj hij).2
  · rw [List.zipIdx_map_snd]
    exact List.nodup_range'

theorem nodup_entryFaults (kind : TableKind) {inner : Entries} (h : inner.IsPlain) :
    ((entryFaults kind inner).map Prod.fst).Nodup := by
  refine @nodup_flagged _ _ _ _ (Spot.entry kind) Prod.fst _ ?_ (fun _ => rfl) h.nodup
  intro k l hkl
  exact (Spot.entry.inj hkl).2

theorem LayoutKey.name_injective : Function.Injective name := fun a b h =>
  have hnames : (all.map name).Nodup := by decide
  List.inj_on_of_nodup_map hnames a.mem_all b.mem_all h

theorem TableKind.name_injective : Function.Injective name := fun a b h =>
  have hnames : (all.map name).Nodup := by decide
  List.inj_on_of_nodup_map hnames a.mem_all b.mem_all h

/-- the spots that a setting has -/
def LayoutKey.Owns (key : LayoutKey) (spot : Spot) : Prop := spot = .setting key.name ∨ ∃ index, spot = .item key index

/-- the spots that a table has -/
def TableKind.Owns (kind : TableKind) (spot : Spot) : Prop := spot = .section kind.name ∨ ∃ key, spot = .entry kind key

theorem LayoutKey.Owns.unique {key key' : LayoutKey} {spot : Spot} (h : key.Owns spot) (h' : key'.Owns spot) :
    key = key' := by
  obtain rfl | ⟨index, rfl⟩ := h
  · obtain h' | ⟨index, h'⟩ := h'
    · exact LayoutKey.name_injective (Spot.setting.inj h')
    · cases h'
  · obtain h' | ⟨index', h'⟩ := h'
    · cases h'
    · exact (Spot.item.inj h').1

theorem TableKind.Owns.unique {kind kind' : TableKind} {spot : Spot} (h : kind.Owns spot) (h' : kind'.Owns spot) :
    kind = kind' := by
  obtain rfl | ⟨key, rfl⟩ := h
  · obtain h' | ⟨key, h'⟩ := h'
    · exact TableKind.name_injective (Spot.section.inj h')
    · cases h'
  · obtain h' | ⟨key', h'⟩ := h'
    · cases h'
    · exact (Spot.entry.inj h').1

theorem exists_of_mem_unknownFaults {spot : Text → Spot} {context : Text} {known : List Text} {es : Entries} {s : Spot}
    (hmem : s ∈ (unknownFaults spot context known es).map Prod.fst) : ∃ key, key ∉ known ∧ s = spot key := by
  obtain ⟨x, hx, rfl⟩ := List.mem_map.1 hmem
  obtain ⟨key, v, -, hkey, rfl⟩ := mem_unknownFaults_iff.1 hx
  exact ⟨key, hkey, rfl⟩

section

variable {es : Entries} (h : es.IsPlain)
include h

theorem owns_of_mem_settingFaults {key : LayoutKey} {spot : Spot} (hmem : spot ∈ (settingFaults es key).map Prod.fst) :
    key.Owns spot := by
  obtain ⟨x, hx, rfl⟩ := List.mem_map.1 hmem
  rcases (mem_settingFaults_iff h).1 hx with ⟨v, -, -, rfl⟩ | ⟨items, -, -, hitem⟩
  · exact .inl rfl
  · obtain ⟨index, v, -, -, rfl⟩ := mem_itemFaults_iff.1 hitem
    exact .inr ⟨index, rfl⟩

theorem owns_of_mem_tableFaults {kind : TableKind} {spot : Spot} (hmem : spot ∈ (tableFaults es kind).map Prod.fst) :
    kind.Owns spot := by
  obtain ⟨x, hx, rfl⟩ := List.mem_map.1 hmem
  rcases (mem_tableFaults_iff h).1 hx with ⟨v, -, -, rfl⟩ | ⟨inner, -, hentry⟩
  · exact .inl rfl
  · obtain ⟨key, v, -, -, rfl⟩ := mem_entryFaults_iff.1 hentry
    exact .inr ⟨key, rfl⟩

omit h in
theorem nodup_settingFaults (key : LayoutKey) : ((settingFaults es key).map Prod.fst).Nodup := by
  rw [settingFaults]
  split
  · exact List.nodup_nil
  · split
    · split
      · exact nodup_itemFaults key _
      · exact List.nodup_nil
    · exact List.nodup_singleton _

theorem nodup_layoutFaults : ((layoutFaults es).map Prod.fst).Nodup := by
  have hsettings : ((LayoutKey.all.flatMap (settingFaults es)).map Prod.fst).Nodup := by
    rw [List.map_flatMap, List.nodup_flatMap]
    refine ⟨fun key _ => nodup_settingFaults key, ?_⟩
    have hall : LayoutKey.all.Nodup := by decide
    refine hall.imp fun hne spot hspot hspot' => hne ?_
    exact (owns_of_mem_settingFaults h hspot).unique (owns_of_mem_settingFaults h hspot')
  rw [layoutFaults, List.map_append, List.nodup_append']
  refine ⟨nodup_unknownFaults (fun _ _ => Spot.setting.inj) _ _ h, hsettings, fun spot hspot hspot' => ?_⟩
  obtain ⟨name, hname, rfl⟩ := exists_of_mem_unknownFaults hspot
  rw [List.map_flatMap] at hspot'
  obtain ⟨key, hkey, hmem⟩ := List.mem_flatMap.1 hspot'
  rcases owns_of_mem_settingFaults h hmem with heq | ⟨index, heq⟩
  · exact hname (Spot.setting.inj heq ▸ List.mem_map_of_mem hkey)
  · cases heq

/-- no fault of the layout section is one of a section -/
theorem ne_section_of_mem_layoutFaults {spot : Spot} (hmem : spot ∈ (layoutFaults es).map Prod.fst) :
    (∀ key, spot ≠ .section key) ∧ ∀ kind key, spot ≠ .entry kind key := by
  rw [layoutFaults, List.map_append, List.mem_append, List.map_flatMap, List.mem_flatMap] at hmem
  rcases hmem with hmem | ⟨key, -, hmem⟩
  · obtain ⟨name, -, rfl⟩ := exists_of_mem_unknownFaults hmem
    exact ⟨fun _ => Spot.noConfusion, fun _ _ => Spot.noConfusion⟩
  · obtain rfl | ⟨index, rfl⟩ := owns_of_mem_settingFaults h hmem
    · exact ⟨fun _ => Spot.noConfusion, fun _ _ => Spot.noConfusion⟩
    · exact ⟨fun _ => Spot.noConfusion, fun _ _ => Spot.noConfusion⟩

end

theorem nodup_tableFaults {es : Entries} (h : IsDocument es) (kind : TableKind) :
    ((tableFaults es kind).map Prod.fst).Nodup := by
  rw [tableFaults]
  split
  · exact List.nodup_nil
  · rename_i inner hinner
    exact nodup_entryFaults kind (h.sections _ _ (h.plain.get?_eq_some_iff.1 hinner))
  · exact List.nodup_singleton _

/-- **One fault for each spot.** -/
theorem nodup_faults {es : Entries} (h : IsDocument es) : ((faults es).map Prod.fst).Nodup := by
  have htables : ((TableKind.all.flatMap (tableFaults es)).map Prod.fst).Nodup := by
    rw [List.map_flatMap, List.nodup_flatMap]
    refine ⟨fun kind _ => nodup_tableFaults h kind, ?_⟩
    have hall : TableKind.all.Nodup := by decide
    refine hall.imp fun hne spot hspot hspot' => hne ?_
    exact (owns_of_mem_tableFaults h.plain hspot).unique (owns_of_mem_tableFaults h.plain hspot')
  have hunknown := nodup_unknownFaults (fun _ _ => Spot.section.inj) "top level" knownSections h.plain
  rw [faults, List.map_append, List.map_append, List.nodup_append', List.nodup_append']
  refine ⟨⟨hunknown, nodup_layoutFaults (isPlain_layout h), ?_⟩, htables, ?_⟩
  · intro spot hspot hlayout
    obtain ⟨key, -, rfl⟩ := exists_of_mem_unknownFaults hspot
    exact (ne_section_of_mem_layoutFaults (isPlain_layout h) hlayout).1 key rfl
  · intro spot hspot htable
    rw [List.map_flatMap] at htable
    obtain ⟨kind, hkind, hmem⟩ := List.mem_flatMap.1 htable
    rcases List.mem_append.1 hspot with hspot | hlayout
    · obtain ⟨key, hkey, rfl⟩ := exists_of_mem_unknownFaults hspot
      rcases owns_of_mem_tableFaults h.plain hmem with heq | ⟨name, heq⟩
      · exact hkey (List.mem_cons_of_mem _ (Spot.section.inj heq ▸ List.mem_map_of_mem hkind))
      · cases heq
    · obtain ⟨hsection, hentry⟩ := ne_section_of_mem_layoutFaults (isPlain_layout h) hlayout
      rcases owns_of_mem_tableFaults h.plain hmem with heq | ⟨name, heq⟩
      · exact hsection _ heq
      · exact hentry _ _ heq

/-! ## What is left -/

/-- a value without what is stray in it -/
def Value.kept : Value → Value
  | .list items => .list (items.filter Value.isText)
  | v => v

/-- a layout value of a layer, as a value of a document -/
def DraftLayout.value? (d : DraftLayout) : LayoutKey → Option Value
  | .indentWidth => d.indentWidth.map .int
  | .terminator => d.terminator.map .text
  | .commentPrefix => d.commentPrefix.map .text
  | .continuationMarker => d.continuationMarker.map .text
  | .blockOpener => d.blockOpener.map .text
  | .blockStringDelimiters => d.blockStringDelimiters.map fun ts => .list (ts.map .text)
  | .continuationKeywords => d.continuationKeywords.map fun ts => .list (ts.map .text)

/-- the layer holds what is left of the document without its faults, and nothing else -/
structure Holds (es : Entries) (layer : Draft) : Prop where
  setting : ∀ key v, layer.layout.value? key = some v ↔
    ∃ inner given, (layoutSection, .table inner) ∈ es ∧ (key.name, given) ∈ inner ∧ key.kind.accepts given = true ∧
      v = given.kept
  table : ∀ kind inner, (kind.name, .table inner) ∈ es →
    (layer.tables.table kind).toEntries = inner.filter fun e => e.2.isText
  noTable : ∀ kind, (∀ inner, (kind.name, .table inner) ∉ es) → (layer.tables.table kind).entries = []

namespace Checked

theorem texts_eq_filter (location : Text) (items : List Value) :
    (texts location items).1.map Value.text = items.filter Value.isText := by
  induction items with
  | nil => rfl
  | cons v rest ih =>
    rw [List.filter_cons]
    cases v with
    | text t => exact congrArg (List.cons _) ih
    | _ => exact ih

theorem textEntries_eq_filter (location : Text) (inner : Entries) :
    (textEntries location inner).1.map (fun e => (e.1, Value.text e.2)) = inner.filter fun e => e.2.isText := by
  induction inner with
  | nil => rfl
  | cons e rest ih =>
    obtain ⟨k, v⟩ := e
    rw [List.filter_cons]
    cases v with
    | text t => exact congrArg (List.cons _) ih
    | _ => exact ih

section

variable (context key : Text) (es : Entries)

theorem value_int? :
    (int? context key es).1.map Value.int =
      ((es.get? key).filter (SettingKind.accepts .number)).map Value.kept := by
  rw [int?]
  cases es.get? key with
  | none => rfl
  | some v => cases v <;> rfl

theorem value_text? :
    (text? context key es).1.map Value.text = ((es.get? key).filter (SettingKind.accepts .text)).map Value.kept := by
  rw [text?]
  cases es.get? key with
  | none => rfl
  | some v => cases v <;> rfl

theorem value_texts? :
    (texts? context key es).1.map (fun ts => Value.list (ts.map .text)) =
      ((es.get? key).filter (SettingKind.accepts .texts)).map Value.kept := by
  rw [texts?]
  cases es.get? key with
  | none => rfl
  | some v =>
    cases v with
    | list items => exact congrArg (fun kept => some (Value.list kept)) (texts_eq_filter _ items)
    | _ => rfl

end

end Checked

/-- what is set of a setting is what its section gives, if it is of the kind -/
theorem value?_ofEntries (inner : Entries) (key : LayoutKey) :
    (DraftLayout.ofEntries inner).1.value? key =
      ((inner.get? key.name).filter key.kind.accepts).map Value.kept := by
  cases key with
  | indentWidth => exact Checked.value_int? _ _ inner
  | terminator => exact Checked.value_text? _ _ inner
  | commentPrefix => exact Checked.value_text? _ _ inner
  | continuationMarker => exact Checked.value_text? _ _ inner
  | blockOpener => exact Checked.value_text? _ _ inner
  | blockStringDelimiters => exact Checked.value_texts? _ _ inner
  | continuationKeywords => exact Checked.value_texts? _ _ inner

section

variable {es : Entries} (h : IsDocument es)
include h

/-- the texts of a section are a table, in their order -/
theorem toEntries_mapping {kind : TableKind} {inner : Entries} (hmem : (kind.name, .table inner) ∈ es) :
    (Checked.mapping kind.name es).1.toEntries = inner.filter fun e => e.2.isText := by
  have hkept := Checked.textEntries_eq_filter (Checked.bracketed kind.name) inner
  have hkeys : ((Checked.textEntries (Checked.bracketed kind.name) inner).1.map Prod.fst).Nodup := by
    have hsame := congrArg (List.map Prod.fst) hkept
    rw [List.map_map] at hsame
    rw [show Prod.fst = Prod.fst ∘ fun e : Text × Text => (e.1, Value.text e.2) from rfl, hsame]
    exact (h.sections _ _ hmem).nodup.sublist (List.filter_sublist.map Prod.fst)
  rw [Checked.mapping, h.plain.get?_eq_some_iff.2 hmem, Table.toEntries, ← hkept]
  exact congrArg _ (assignAll_eq_append [] _ hkeys)

theorem entries_mapping_eq_nil {kind : TableKind} (hnone : ∀ inner, (kind.name, .table inner) ∉ es) :
    (Checked.mapping kind.name es).1.entries = [] := by
  rw [Checked.mapping]
  split
  · rfl
  · rename_i inner hinner
    exact absurd (h.plain.get?_eq_some_iff.1 hinner) (hnone inner)
  · rfl

omit h in
theorem table_ofEntries (kind : TableKind) :
    (Tables.ofEntries es).1.table kind = (Checked.mapping kind.name es).1 := by
  cases kind <;> rfl

theorem holds_ofEntries (source : Option Text) (warnings : List Warning) :
    Holds es
      { layout := (DraftLayout.ofEntries (Checked.table es layoutSection)).1
        tables := (Tables.ofEntries es).1
        sources := source.toList
        warnings := warnings } where
  setting key v := by
    have hlayout := isPlain_layout h
    simp only [value?_ofEntries, Option.map_eq_some_iff, Option.filter_eq_some_iff, hlayout.get?_eq_some_iff,
      mem_layout_iff h]
    constructor
    · rintro ⟨given, ⟨⟨inner, hsection, hmem⟩, hkind⟩, rfl⟩
      exact ⟨inner, given, hsection, hmem, hkind, rfl⟩
    · rintro ⟨inner, given, hsection, hmem, hkind, rfl⟩
      exact ⟨given, ⟨⟨inner, hsection, hmem⟩, hkind⟩, rfl⟩
  table kind inner hmem := by
    rw [table_ofEntries, toEntries_mapping h hmem]
  noTable kind hnone := by
    rw [table_ofEntries, entries_mapping_eq_nil h hnone]

end

/-! ## The layer of a document -/

namespace Checked

/-- remarks become warnings just if each of them can be made -/
theorem warnings_eq_ok_iff {rs : List Remark} {ws : List Warning} :
    warnings rs = .ok ws ↔ CanBeMade rs ∧ ws = rs.map Remark.warning := by
  induction rs generalizing ws with
  | nil =>
    rw [warnings]
    constructor
    · rintro ⟨⟩
      exact ⟨.nil, rfl⟩
    · rintro ⟨-, rfl⟩
      rfl
  | cons r rest ih =>
    rw [warnings, CanBeMade, List.forall_mem_cons]
    split
    · rename_i hr
      cases hrest : warnings rest with
      | ok ws' =>
        obtain ⟨hmade, rfl⟩ := ih.1 hrest
        constructor
        · rintro ⟨⟩
          exact ⟨⟨hr, hmade⟩, rfl⟩
        · rintro ⟨-, rfl⟩
          rfl
      | error fault =>
        refine iff_of_false (by rintro ⟨⟩) ?_
        rintro ⟨⟨-, hmade⟩, -⟩
        cases hrest.symm.trans (ih.2 ⟨hmade, rfl⟩)
    · rename_i hr
      exact iff_of_false (by rintro ⟨⟩) fun hmade => hr hmade.1.1

end Checked

theorem remarks_faults (es : Entries) :
    (faults es).map Prod.snd =
      Checked.unknownKeys "top level" knownSections es ++
        (DraftLayout.ofEntries (Checked.table es layoutSection)).2 ++ (Tables.ofEntries es).2 := by
  rw [faults, List.map_append, List.map_append, Checked.remarks_unknownKeys, remarks_layout, remarks_tables]

theorem Draft.ofEntries_eq_ok_iff {es : Entries} {source : Option Text} {layer : Draft} :
    Draft.ofEntries es source = .ok layer ↔
      Checked.CanBeMade ((faults es).map Prod.snd) ∧
        layer =
          { layout := (DraftLayout.ofEntries (Checked.table es layoutSection)).1
            tables := (Tables.ofEntries es).1
            sources := source.toList
            warnings := (faults es).map fun f => f.2.warning } := by
  have hwarnings : (faults es).map (fun f => f.2.warning) = ((faults es).map Prod.snd).map Checked.Remark.warning := by
    rw [List.map_map]
    rfl
  simp only [Draft.ofEntries, hwarnings, ← remarks_faults]
  cases hmade : Checked.warnings ((faults es).map Prod.snd) with
  | ok ws =>
    obtain ⟨hall, rfl⟩ := Checked.warnings_eq_ok_iff.1 hmade
    constructor
    · rintro ⟨⟩
      exact ⟨hall, rfl⟩
    · rintro ⟨-, rfl⟩
      rfl
  | error fault =>
    refine iff_of_false (by rintro ⟨⟩) ?_
    rintro ⟨hall, -⟩
    cases hmade.symm.trans (Checked.warnings_eq_ok_iff.2 ⟨hall, rfl⟩)

/-- **Nothing of a document is lost silently, but for one gap.** A document is a layer just if every value that a fault of
it quotes can be quoted. Then there is one warning for each fault and no other, no two faults are at one spot, and the
layer holds exactly what is left. The gap is a layout section that is no table: the rules know no fault of it. -/
theorem document_faults {es : Entries} (h : IsDocument es) (source : Option Text) :
    ∃ found : List (Spot × Checked.Remark),
      (∀ spot r, (spot, r) ∈ found ↔ Fault es spot r) ∧
      (found.map Prod.fst).Nodup ∧
      ((∃ layer, Draft.ofEntries es source = .ok layer) ↔ ∀ spot r, Fault es spot r → r.canBeMade = true) ∧
      ∀ layer, Draft.ofEntries es source = .ok layer →
        layer.warnings = found.map (fun f => f.2.warning) ∧ Holds es layer ∧ layer.sources = source.toList := by
  refine ⟨faults es, fun spot r => mem_faults_iff h, nodup_faults h, ?_, ?_⟩
  · simp only [Draft.ofEntries_eq_ok_iff, exists_and_left, exists_eq, and_true, Checked.CanBeMade, List.forall_mem_map,
      Prod.forall, mem_faults_iff h]
  · intro layer hlayer
    obtain ⟨-, rfl⟩ := Draft.ofEntries_eq_ok_iff.1 hlayer
    exact ⟨rfl, holds_ofEntries h source _, rfl⟩

/-- a document with a fault of every kind -/
theorem document_with_every_fault :
    let es : Entries :=
      [("layuot", .int 1),
        ("layout", .table [("indent_width", .bool true), ("comment_prefix", .text "//"), ("width", .int 2),
          ("continuation_keywords", .list [.text "and", .int 3, .text "or"])]),
        ("reserved_words", .text "None"),
        ("special_methods", .table [("__str__", .text "to_s"), ("__len__", .int 4)])]
    IsDocument es ∧
      ∃ (found : List (Spot × Checked.Remark)) (layer : Draft),
        (∀ spot r, (spot, r) ∈ found ↔ Fault es spot r) ∧ found.length = 6 ∧
        Draft.ofEntries es none = .ok layer ∧ layer.warnings = found.map (fun f => f.2.warning) ∧
        layer.layout = { commentPrefix := some "//", continuationKeywords := some ["and", "or"] } ∧
        layer.tables.specialMethods.entries = [("__str__".toList, "to_s".toList)] := by
  intro es
  have hdoc : IsDocument es := by
    refine ⟨⟨by decide, by simp [es]⟩, ?_⟩
    intro key inner hmem
    simp only [es, List.mem_cons, Prod.mk.injEq, Value.table.injEq, reduceCtorEq, and_false, List.not_mem_nil, or_false,
      false_or] at hmem
    rcases hmem with ⟨rfl, rfl⟩ | ⟨rfl, rfl⟩
    · exact ⟨by decide, by simp⟩
    · exact ⟨by decide, by simp⟩
  obtain ⟨found, hfound, -, -, hlayer⟩ := document_faults hdoc none
  have hread : (Draft.ofEntries es none).toOption.map
      (fun layer => (layer.warnings.length, layer.layout, layer.tables.specialMethods.entries)) =
        some (6, { commentPrefix := some "//", continuationKeywords := some ["and", "or"] },
          [("__str__".toList, "to_s".toList)]) := by
    decide +kernel
  cases hok : Draft.ofEntries es none with
  | error fault =>
    rw [hok] at hread
    cases hread
  | ok layer =>
    rw [hok] at hread
    obtain ⟨hcount, hrest⟩ := Prod.mk.inj (Option.some.inj hread)
    obtain ⟨hlayout, htable⟩ := Prod.mk.inj hrest
    obtain ⟨hwarnings, -, -⟩ := hlayer layer hok
    refine ⟨hdoc, found, layer, hfound, ?_, rfl, hwarnings, hlayout, htable⟩
    rw [← hcount, hwarnings, List.length_map]

/-- a layout section that is no table: nothing is set, and nothing is said -/
theorem layout_that_is_no_table_unnoticed :
    let es : Entries := [(layoutSection, .int 3)]
    IsDocument es ∧ Draft.ofEntries es none = .ok {} := by
  intro es
  refine ⟨⟨⟨by decide, by simp [es]⟩, ?_⟩, rfl⟩
  intro key inner hmem
  simp [es] at hmem

end Linewise
