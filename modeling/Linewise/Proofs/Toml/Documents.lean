/-
Documents of settings read back.

A body whose keys are distinct takes every new key as it is, has no clashes, and amounts to its entries. So a document of
sections of settings, each key said once, is read back as it was written (`read_write`), and empty lines and comments
around it change nothing (`read_of_reads`).
-/
import Linewise.Proofs.Toml.Outlines
import Linewise.Toml.Reader
import Mathlib.Data.List.TakeDrop

namespace Linewise.Toml

/-! ## Bodies with distinct keys -/

namespace Body

theorem about_of_notMem {body : Body} {k : Text} (h : k ∉ body.map Piece.key) : body.about k = [] := by
  refine List.filter_eq_nil_iff.2 fun q hq => ?_
  simpa using fun heq : q.key = k => h (heq ▸ List.mem_map_of_mem hq)

section

variable {body : Body} {p : Piece} (h : p.key ∉ body.map Piece.key)
include h

theorem last?_of_notMem : body.last? p.key = none := by
  refine List.find?_eq_none.2 fun q hq => ?_
  have hmem : q.key ∈ body.map Piece.key := List.mem_map_of_mem (List.mem_reverse.1 hq)
  simpa using fun heq : q.key = p.key => h (heq ▸ hmem)

/-- a new key is added at the end -/
theorem tell_of_notMem (deep : Nat) (checked : Bool) : tell (deep + 1) checked body p = .ok (body ++ [p]) := by
  rw [tell, last?_of_notMem h]
  rfl

theorem about_append_of_notMem : (body ++ [p]).about p.key = [p] := by
  have hnone := about_of_notMem h
  rw [about] at hnone ⊢
  rw [List.filter_append, hnone, List.nil_append, List.filter_cons_of_pos (by simp)]
  rfl

theorem add_of_notMem (checked : Bool) : add checked body p = .ok (body ++ [p]) := by
  have hlook : look (body ++ [p]) p.key = .ok () := by
    rw [look, about_append_of_notMem h]
  rw [add, show deepest = 605 + 1 from rfl, tell_of_notMem h, ok_bind, hlook]
  rfl

end

/-- pieces under new keys are added one after another -/
theorem foldlM_eq_append {α ε : Type} {say : Body → α → Except ε Body} {piece : α → Piece}
    (hsay : ∀ body a, (piece a).key ∉ body.map Piece.key → say body a = .ok (body ++ [piece a])) {body : Body}
    {as : List α} (h : ((body ++ as.map piece).map Piece.key).Nodup) :
    as.foldlM say body = .ok (body ++ as.map piece) := by
  induction as generalizing body with
  | nil => rw [List.foldlM_nil, List.map_nil, List.append_nil]; rfl
  | cons a rest ih =>
    have hnew : (piece a).key ∉ body.map Piece.key := by
      rw [List.map_append, List.nodup_append] at h
      intro hmem
      exact h.2.2 _ hmem _ (by simp) rfl
    have hrest : (((body ++ [piece a]) ++ rest.map piece).map Piece.key).Nodup := by
      rwa [List.append_assoc]
    rw [List.foldlM_cons, hsay body a hnew, ok_bind, ih hrest, List.append_assoc]
    rfl

theorem mapM_map_of_ok {α β ε : Type} {as : List α} {key : α → β} {f : β → Except ε α}
    (h : ∀ a ∈ as, f (key a) = .ok a) : (as.map key).mapM f = .ok as := by
  induction as with
  | nil => rfl
  | cons a rest ih =>
    rw [List.map_cons, List.mapM_cons, h a List.mem_cons_self, ok_bind,
      ih fun b hb => h b (List.mem_cons_of_mem a hb)]
    rfl

section

variable {body : Body} (h : (body.map Piece.key).Nodup)
include h

theorem keys_of_nodup : body.keys = body.map Piece.key := by
  induction body with
  | nil => rfl
  | cons p rest ih =>
    rw [List.map_cons, List.nodup_cons] at h
    have hkeep : (rest.map Piece.key).filter (fun k => decide (k ≠ p.key)) = rest.map Piece.key :=
      List.filter_eq_self.2 fun k hk => by simpa using fun heq : k = p.key => h.1 (heq ▸ hk)
    rw [keys, ih h.2, hkeep, List.map_cons]

theorem about_of_mem {p : Piece} (hp : p ∈ body) : body.about p.key = [p] := by
  induction body with
  | nil => cases hp
  | cons q rest ih =>
    rw [List.map_cons, List.nodup_cons] at h
    rcases List.mem_cons.1 hp with rfl | hrest
    · have hnone := about_of_notMem h.1
      rw [about] at hnone ⊢
      rw [List.filter_cons_of_pos (by simp), hnone]
    · have hne : q.key ≠ p.key := fun heq => h.1 (heq ▸ List.mem_map_of_mem hrest)
      rw [about, List.filter_cons_of_neg (by simpa using hne)]
      exact ih h.2 hrest

/-- nothing clashes where every key is said once -/
theorem checkAll_of_nodup : body.checkAll = .ok () := by
  have hcheck : ∀ k ∈ body.map Piece.key, check deepest body k = .ok () := by
    intro k hk
    obtain ⟨p, hp, rfl⟩ := List.mem_map.1 hk
    rw [show deepest = 605 + 1 from rfl, check, about_of_mem h hp]
  rw [checkAll, keys_of_nodup h, forM_eq_ok_iff.2 hcheck]

end

/-- a body amounts to entries if each of its pieces amounts to the value under its key -/
theorem gather_map {es : Entries} {node : Value → Node} (h : (es.map Prod.fst).Nodup) {deep : Nat}
    (hnode : ∀ e ∈ es, gatherNode deep (node e.2) = .ok e.2) :
    gather (deep + 1) (es.map fun e => ⟨e.1, false, node e.2⟩) = .ok es := by
  let piece : Text × Value → Piece := fun e => ⟨e.1, false, node e.2⟩
  have hkeys : (es.map piece).map Piece.key = es.map Prod.fst := by
    rw [List.map_map]
    rfl
  have hnodup : ((es.map piece).map Piece.key).Nodup := hkeys ▸ h
  have hread : ∀ e ∈ es, about (es.map piece) e.1 = [piece e] := fun e he =>
    about_of_mem hnodup (List.mem_map_of_mem he)
  show gather (deep + 1) (es.map piece) = _
  rw [gather, keys_of_nodup hnodup, hkeys]
  refine mapM_map_of_ok fun e he => ?_
  rw [hread e he]
  simp only [piece, hnode e he]
  rfl

end Body

/-! ## Sections -/

/-- what is said about settings -/
def settingPieces (es : Entries) : Body := es.map fun e => ⟨e.1, false, .leaf e.2⟩

/-- what a section of settings says -/
def sectionPiece (s : Text × Entries) : Piece := ⟨s.1, false, .table false (settingPieces s.2)⟩

theorem map_key_settingPieces (es : Entries) : (settingPieces es).map Piece.key = es.map Prod.fst := by
  rw [settingPieces, List.map_map]
  rfl

/-- sections, each said once, of settings, each said once -/
structure IsFlat (ss : List (Text × Entries)) : Prop where
  sections : (ss.map Prod.fst).Nodup
  keys : ∀ s ∈ ss, (s.2.map Prod.fst).Nodup
  settings : ∀ s ∈ ss, ∀ e ∈ s.2, e.2.IsSetting

theorem readParagraph_settings {text : Text} {es : Entries} (h : (es.map Prod.fst).Nodup) :
    readParagraph text { assignments := es.map fun e => ([e.1], e.2) } = .ok (settingPieces es) := by
  have hassign : (es.map fun e => ([e.1], e.2)).foldlM assign [] = .ok (settingPieces es) := by
    have hsay : ∀ (body : Body) (e : Text × Value), e.1 ∉ body.map Piece.key →
        assign body ([e.1], e.2) = .ok (body ++ [⟨e.1, false, .leaf e.2⟩]) := by
      intro body e hnew
      show List.foldlM (Body.add _) body [⟨e.1, false, .leaf e.2⟩] = _
      rw [List.foldlM_cons, Body.add_of_notMem hnew]
      rfl
    rw [List.foldlM_map]
    exact Body.foldlM_eq_append hsay (by rw [List.nil_append]; exact map_key_settingPieces es ▸ h)
  rw [readParagraph, hassign]
  rfl

theorem readTable_section {fuel : Nat} {s : Section} {e : Text × Entries} (hs : s.Holds e)
    (h : (e.2.map Prod.fst).Nodup) : readTable (fuel + 1) s [] = .ok (settingPieces e.2) := by
  have hbelow : ∀ body, readBelow fuel s.path body [] = .ok body := by
    intro body
    cases fuel <;> rw [readBelow]
  have hcheck : (settingPieces e.2).checkAll = .ok () := Body.checkAll_of_nodup (by rwa [map_key_settingPieces])
  rw [readTable, hs.paragraph, readParagraph_settings h, ok_bind, hbelow, ok_bind, hcheck]
  rfl

/-- a section with a path of one part stands below no other such section -/
theorem isBelow_section {s r : Section} {e f : Text × Entries} (hs : s.Holds e) (hr : r.Holds f) :
    r.isBelow s.path = false := by
  rw [Section.isBelow, hs.path, hr.path]
  by_cases heq : e.1 = f.1
  · simp [heq]
  · simp [List.isPrefixOf, heq]

theorem readSection_section (fuel : Nat) {s : Section} {following : List Section} {e : Text × Entries}
    {fs : List (Text × Entries)} (hs : s.Holds e) (hfollowing : List.Forall₂ Section.Holds following fs)
    (h : (e.2.map Prod.fst).Nodup) :
    readSection (fuel + 2) [] s following = .ok ([sectionPiece e], following) := by
  have hspan : following.span (fun r => r.isBelow [e.1]) = ([], following) := by
    cases hfollowing with
    | nil => rfl
    | cons hr _ =>
      have hnot := isBelow_section hs hr
      rw [hs.path] at hnot
      rw [List.span_eq_takeWhile_dropWhile, List.takeWhile_cons_of_neg (by simp [hnot]),
        List.dropWhile_cons_of_neg (by simp [hnot])]
  simp only [readSection, hs.path, hspan, readTable_section hs h, hs.ofArray]
  rfl

theorem tellTop_section {t text : Text} {body : Body} {e : Text × Entries} (h : e.1 ∉ body.map Piece.key) :
    tellTop t text body [sectionPiece e] = .ok (body ++ [sectionPiece e]) := by
  rw [tellTop, List.foldlM_cons, show deepest = 605 + 1 from rfl, Body.tell_of_notMem h]
  rfl

/-- sections under new keys are said one after another -/
theorem readTop_sections {t : Text} {fuel : Nat} {body : Body} {read : List Section} {ss : List (Text × Entries)}
    (hread : List.Forall₂ Section.Holds read ss) (hkeys : ∀ s ∈ ss, (s.2.map Prod.fst).Nodup)
    (hnodup : (body.map Piece.key ++ ss.map Prod.fst).Nodup) (hfuel : read.length < fuel) :
    readTop t fuel body read = .ok (body ++ ss.map sectionPiece) := by
  induction hread generalizing fuel body with
  | nil =>
    rw [List.map_nil, List.append_nil]
    cases fuel <;> rw [readTop]
  | @cons s e following rest hs hfollowing ih =>
    rw [List.length_cons] at hfuel
    obtain ⟨fuel, rfl⟩ := Nat.exists_eq_add_one.2 (Nat.zero_lt_of_lt hfuel)
    have hsection := readSection_section (4 * following.length + 2) hs hfollowing (hkeys e List.mem_cons_self)
    have hnew : e.1 ∉ body.map Piece.key := by
      rw [List.nodup_append] at hnodup
      intro hmem
      exact hnodup.2.2 _ hmem _ List.mem_cons_self rfl
    have hrest : readTop t fuel (body ++ [sectionPiece e]) following =
        .ok ((body ++ [sectionPiece e]) ++ rest.map sectionPiece) :=
      ih (fun s hs => hkeys s (List.mem_cons_of_mem e hs))
        (by rw [List.map_append, List.append_assoc]; exact hnodup) (Nat.lt_of_succ_lt_succ hfuel)
    rw [readTop, hsection]
    simp only [Except.mapError, ok_bind, tellTop_section hnew]
    rw [hrest, List.append_assoc]
    rfl

/-! ## Documents -/

theorem gather_sections {ss : List (Text × Entries)} (h : IsFlat ss) :
    Body.gather deepest (ss.map sectionPiece) = .ok (ofSections ss) := by
  let node : Value → Node := fun v => .table false (settingPieces v.entries)
  have hpieces : ss.map sectionPiece = (ofSections ss).map fun e => ⟨e.1, false, node e.2⟩ := by
    rw [ofSections, List.map_map]
    rfl
  have hkeys : (ofSections ss).map Prod.fst = ss.map Prod.fst := by
    rw [ofSections, List.map_map]
    rfl
  rw [hpieces, show deepest = 605 + 1 from rfl]
  refine Body.gather_map (hkeys ▸ h.sections) fun e he => ?_
  obtain ⟨s, hs, rfl⟩ := List.mem_map.1 he
  have hinner : Body.gather (603 + 1) (settingPieces s.2) = .ok s.2 :=
    Body.gather_map (h.keys s hs) fun _ _ => rfl
  show Body.gatherNode (604 + 1) (.table false (settingPieces s.2)) = .ok (.table s.2)
  rw [Body.gatherNode, hinner]
  rfl

/-- **A document of settings is read back**, entry by entry, whatever empty lines and comments stand around it. -/
theorem read_of_reads {t : Text} {read : List Section} {ss : List (Text × Entries)} (ht : Reads t { sections := read })
    (hread : List.Forall₂ Section.Holds read ss) (hflat : IsFlat ss) : Toml.read t = .ok (ofSections ss) := by
  have houtline : Outline.read t = { sections := read } := ht _ (Nat.lt_succ_self _)
  have htop : readTop t (read.length + 1) [] read = .ok (ss.map sectionPiece) :=
    readTop_sections hread hflat.keys (by simpa using hflat.sections) (Nat.lt_succ_self _)
  have hgather := gather_sections hflat
  have hnone : List.foldlM (fun body a => tellTop t t body ((Node.leaf a.2).under true a.1)) ([] : Body)
      ([] : List Assignment) = .ok [] := rfl
  rw [Toml.read, houtline]
  simp only [hnone, ok_bind, htop, hgather]
  rfl

/-- nothing is absent from settings -/
theorem presentEntries_settings {es : Entries} (h : ∀ e ∈ es, e.2.IsSetting) : Value.presentEntries es = es := by
  induction es with
  | nil => rfl
  | cons e rest ih =>
    obtain ⟨k, v⟩ := e
    have hv := h (k, v) List.mem_cons_self
    have hrest := ih fun a ha => h a (List.mem_cons_of_mem _ ha)
    have hpresent := hv.present_eq_self
    cases hv <;> simp only [Value.presentEntries, hpresent, hrest]

theorem presentEntries_ofSections {ss : List (Text × Entries)} (h : ∀ s ∈ ss, ∀ e ∈ s.2, e.2.IsSetting) :
    Value.presentEntries (ofSections ss) = ofSections ss := by
  induction ss with
  | nil => rfl
  | cons s rest ih =>
    show (s.1, Value.table (Value.presentEntries s.2)) :: Value.presentEntries (ofSections rest) = _
    rw [presentEntries_settings (h s List.mem_cons_self), ih fun r hr => h r (List.mem_cons_of_mem s hr)]
    rfl

theorem write_ofSections {ss : List (Text × Entries)} (h : ∀ s ∈ ss, ∀ e ∈ s.2, e.2.IsSetting) :
    write (ofSections ss) = sections [] false true (ofSections ss) := by
  rw [write, presentEntries_ofSections h, document_ofSections]

/-- **A written document of settings is read back.** -/
theorem read_write {ss : List (Text × Entries)} (h : IsFlat ss) :
    Toml.read (write (ofSections ss)) = .ok (ofSections ss) := by
  obtain ⟨read, hreads, hread⟩ := reads_sections h.settings .nil true
  rw [List.append_nil, ← write_ofSections h.settings] at hreads
  exact read_of_reads hreads hread h

end Linewise.Toml
