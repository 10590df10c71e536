/-
A document is a layer of settings, whatever its shape.

What a document cannot mean is left out with a remark, and a remark quotes a value of the document. So the layer can be
made if all values of the document can be quoted (`Draft.exists_ofEntries`): a key of an unknown name, a value of another
kind, a section that is no table are no obstacle. Each reader is shown to make only such remarks (`CanBeMade`).
-/
import Linewise.Config.Document

namespace Linewise

/-! ## Values that can be quoted -/

namespace Value

theorem isShowable_of_mem_entries {es : Entries} (h : entriesShowable es = true) {e : Text × Value} (he : e ∈ es) :
    e.2.isShowable = true := by
  induction es with
  | nil => cases he
  | cons first rest ih =>
    obtain ⟨key, v⟩ := first
    rw [entriesShowable, Bool.and_eq_true] at h
    rcases List.mem_cons.1 he with rfl | hrest
    · exact h.1
    · exact ih h.2 hrest

theorem isShowable_of_get? {es : Entries} (h : entriesShowable es = true) {key : Text} {v : Value}
    (hv : es.get? key = some v) : v.isShowable = true := by
  rw [Entries.get?] at hv
  split at hv
  · cases hv
  · cases hv
  · rename_i found _ hlookup
    cases hv
    obtain ⟨before, after, rfl, -⟩ := List.lookup_eq_some_iff.1 hlookup
    exact isShowable_of_mem_entries h (List.mem_append_right before List.mem_cons_self)

end Value

namespace Checked

/-- all remarks can be made -/
def CanBeMade (rs : List Remark) : Prop := ∀ r ∈ rs, r.canBeMade = true

theorem CanBeMade.nil : CanBeMade [] := by
  intro r hr
  cases hr

theorem CanBeMade.cons {r : Remark} {rs : List Remark} (h : r.canBeMade = true) (hrs : CanBeMade rs) :
    CanBeMade (r :: rs) := List.forall_mem_cons.2 ⟨h, hrs⟩

theorem CanBeMade.append {rs rs' : List Remark} (h : CanBeMade rs) (h' : CanBeMade rs') : CanBeMade (rs ++ rs') :=
  List.forall_mem_append.2 ⟨h, h'⟩

theorem CanBeMade.exists_warnings {rs : List Remark} (h : CanBeMade rs) : ∃ ws, warnings rs = .ok ws := by
  induction rs with
  | nil => exact ⟨[], rfl⟩
  | cons r rest ih =>
    obtain ⟨hfirst, hrest⟩ := List.forall_mem_cons.1 h
    obtain ⟨ws, hws⟩ := ih hrest
    refine ⟨r.warning :: ws, ?_⟩
    rw [warnings, if_pos hfirst, hws]
    rfl

section

variable {es : Entries} (h : Value.entriesShowable es = true) (context key : Text)

theorem canBeMade_unknownKeys (known : List Text) (es : Entries) : CanBeMade (unknownKeys context known es) := by
  intro r hr
  obtain ⟨e, -, rfl⟩ := List.mem_map.1 hr
  rfl

include h

theorem entriesShowable_table : Value.entriesShowable (table es key) = true := by
  rw [table]
  split
  · rename_i inner hinner
    exact Value.isShowable_of_get? h hinner
  · rfl

theorem canBeMade_int? : CanBeMade (int? context key es).2 := by
  rw [int?]
  split
  · exact .nil
  · exact .nil
  · rename_i v _ hv
    exact .cons (Value.isShowable_of_get? h hv) .nil

theorem canBeMade_text? : CanBeMade (text? context key es).2 := by
  rw [text?]
  split
  · exact .nil
  · exact .nil
  · rename_i v _ hv
    exact .cons (Value.isShowable_of_get? h hv) .nil

omit h in
theorem canBeMade_texts {items : List Value} (hitems : Value.areShowable items = true) (location : Text) :
    CanBeMade (texts location items).2 := by
  induction items with
  | nil => exact .nil
  | cons v rest ih =>
    rw [Value.areShowable, Bool.and_eq_true] at hitems
    cases v with
    | text t => exact ih hitems.2
    | _ => exact .cons hitems.1 (ih hitems.2)

theorem canBeMade_texts? : CanBeMade (texts? context key es).2 := by
  rw [texts?]
  split
  · exact .nil
  · rename_i items hitems
    exact canBeMade_texts (Value.isShowable_of_get? h hitems) _
  · rename_i v _ hv
    exact .cons (Value.isShowable_of_get? h hv) .nil

theorem canBeMade_textEntries (location : Text) : CanBeMade (textEntries location es).2 := by
  induction es with
  | nil => exact .nil
  | cons e rest ih =>
    obtain ⟨k, v⟩ := e
    rw [Value.entriesShowable, Bool.and_eq_true] at h
    cases v with
    | text t => exact ih h.2
    | _ => exact .cons h.1 (ih h.2)

theorem canBeMade_mapping : CanBeMade (mapping key es).2 := by
  rw [mapping]
  split
  · exact .nil
  · rename_i inner hinner
    exact canBeMade_textEntries (Value.isShowable_of_get? h hinner) _
  · rename_i v _ hv
    exact .cons (Value.isShowable_of_get? h hv) .nil

end

end Checked

/-! ## Layers -/

section

variable {es : Entries} (h : Value.entriesShowable es = true)
include h

theorem DraftLayout.canBeMade_ofEntries : Checked.CanBeMade (ofEntries es).2 :=
  have hints := Checked.canBeMade_int? h (Checked.bracketed layoutSection)
  have htexts := Checked.canBeMade_text? h (Checked.bracketed layoutSection)
  have hlists := Checked.canBeMade_texts? h (Checked.bracketed layoutSection)
  (((((((Checked.canBeMade_unknownKeys _ _ es).append (hints _)).append (htexts _)).append (htexts _)).append
    (htexts _)).append (htexts _)).append (hlists _)).append (hlists _)

theorem Tables.canBeMade_ofEntries : Checked.CanBeMade (ofEntries es).2 :=
  have hmappings := Checked.canBeMade_mapping h
  (((hmappings _).append (hmappings _)).append (hmappings _)).append (hmappings _)

/-- a document whose values can be quoted is a layer -/
theorem Draft.exists_ofEntries (source : Option Text) : ∃ layer, Draft.ofEntries es source = .ok layer := by
  have hlayout := DraftLayout.canBeMade_ofEntries (Checked.entriesShowable_table h layoutSection)
  have htables := Tables.canBeMade_ofEntries h
  have hknown := Checked.canBeMade_unknownKeys "top level" knownSections es
  obtain ⟨ws, hws⟩ := ((hknown.append hlayout).append htables).exists_warnings
  simp only [ofEntries, hws]
  exact ⟨_, rfl⟩

end

end Linewise
