/-
Documents of settings, line by line.

`Reads t o` says that the text `t` is laid out as `o`. Empty lines and comments add nothing, an assignment and a header
add themselves (`Reads.assignment`, `Reads.header`). So a written document is laid out section by section as it was
written (`reads_sections`).
-/
import Linewise.Proofs.Toml.Values
import Linewise.Toml.Section
import Mathlib.Data.List.Forall2

namespace Linewise.Toml

/-! ## Lines -/

/-- the text is laid out so -/
def Reads (t : Text) (o : Outline) : Prop := ∀ fuel, t.length < fuel → Outline.readLines fuel t = o

/-- a key begins neither as a line of another kind nor with a space -/
theorem key_eq_cons (k : Text) :
    ∃ c cs, key k = c :: cs ∧ isSpace c = false ∧ c ≠ '\n' ∧ c ≠ '#' ∧ c ≠ '[' := by
  rcases key_cases k with ⟨hkey, hne, hbare⟩ | hkey
  · obtain ⟨c, cs, rfl⟩ := List.exists_cons_of_ne_nil hne
    have hc := hbare c List.mem_cons_self
    have hother : ∀ d : Char, isBareChar d = false → c ≠ d := by
      rintro d hd rfl
      rw [hd] at hc
      cases hc
    exact ⟨c, cs, hkey, not_isSpace_of_isBareChar hc, hother _ (by decide), hother _ (by decide), hother _ (by decide)⟩
  · exact ⟨'"', _, hkey, by decide⟩

/-- a setting with its key on a line of its own -/
def settingLine (e : Text × Value) : Text := key e.1 ++ " = " ++ inline e.2 ++ ['\n']

theorem readAssignment_settingLine {e : Text × Value} (h : e.2.IsSetting) (t : Text) :
    readAssignment (settingLine e ++ t) = .ok (([e.1], e.2), t) := by
  have hkey : readKey (key e.1 ++ (" = ".toList ++ (inline e.2 ++ '\n' :: t))) =
      .ok ([e.1], '=' :: ' ' :: (inline e.2 ++ '\n' :: t)) :=
    readKey_key rfl (by decide) (by decide) (by decide)
  have hskip : skipSpaces (' ' :: (inline e.2 ++ '\n' :: t)) = inline e.2 ++ '\n' :: t :=
    h.skipSpaces_inline _
  have hvalue := h.readWhole_inline t
  have hline : settingLine e ++ t = key e.1 ++ (" = ".toList ++ (inline e.2 ++ '\n' :: t)) := by
    simp [settingLine]
  rw [hline, readAssignment, hkey, ok_bind]
  simp only [hskip, hvalue, ok_bind]
  rfl

theorem readPath_key (k t : Text) : readPath (key k ++ ']' :: t) = .ok ((false, [k]), ']' :: t) := by
  have hkey : readKey (key k ++ ']' :: t) = .ok ([k], ']' :: t) :=
    readKey_key rfl (by decide) (by decide) (by decide)
  have hhead : ((key k ++ ']' :: t).head? == some '[') = false := by
    obtain ⟨c, cs, hcs, -, -, -, hbracket⟩ := key_eq_cons k
    rw [hcs]
    simpa using hbracket
  rw [readPath, hhead]
  simp only [Bool.false_eq_true, if_false, hkey]
  rfl

namespace Reads

theorem nil : Reads [] {} := by
  intro fuel hfuel
  obtain ⟨fuel, rfl⟩ := Nat.exists_eq_add_one.2 hfuel
  rfl

variable {t : Text} {o : Outline} (h : Reads t o)
include h

theorem emptyLine : Reads ('\n' :: t) o := by
  intro fuel hfuel
  rw [List.length_cons] at hfuel
  obtain ⟨fuel, rfl⟩ := Nat.exists_eq_add_one.2 (Nat.zero_lt_of_lt hfuel)
  exact h fuel (Nat.lt_of_succ_lt_succ hfuel)

theorem comment {line : Text} (hline : IsPlain line) : Reads ('#' :: line ++ '\n' :: t) o := by
  have hread : readComment (line ++ '\n' :: t) = .ok ('\n' :: t) := by
    induction line with
    | nil => rfl
    | cons c rest ih =>
      have hc := hline c List.mem_cons_self
      have hne : c ≠ '\n' := by
        rintro rfl
        exact absurd hc (by decide)
      rw [List.cons_append, readComment, if_neg hne, if_neg (by simp [hc])]
      exact ih fun d hd => hline d (List.mem_cons_of_mem c hd)
  intro fuel hfuel
  simp only [List.cons_append, List.length_cons, List.length_append] at hfuel
  obtain ⟨fuel, rfl⟩ := Nat.exists_eq_add_one.2 (Nat.zero_lt_of_lt hfuel)
  have hskip : skipSpaces ('#' :: (line ++ '\n' :: t)) = '#' :: (line ++ '\n' :: t) := rfl
  rw [List.cons_append, Outline.readLines, hskip]
  simp only [hread]
  exact h fuel (by omega)

theorem assignment {e : Text × Value} (he : e.2.IsSetting) : Reads (settingLine e ++ t) (o.cons ([e.1], e.2)) := by
  intro fuel hfuel
  have hread := readAssignment_settingLine he t
  obtain ⟨c, cs, hcs, hspace, hfeed, hcomment, hbracket⟩ := key_eq_cons e.1
  obtain ⟨more, hmore⟩ : ∃ more, settingLine e ++ t = c :: more := ⟨_, by rw [settingLine, hcs]; rfl⟩
  have hlength : t.length < (c :: more).length := by
    rw [← hmore, settingLine, hcs]
    simp only [List.length_append, List.length_cons]
    omega
  have hskip : skipSpaces (c :: more) = c :: more := List.dropWhile_cons_of_neg (by simp [hspace])
  rw [hmore] at hread hfuel ⊢
  obtain ⟨fuel, rfl⟩ := Nat.exists_eq_add_one.2 (Nat.zero_lt_of_lt hfuel)
  rw [Outline.readLines, hskip]
  split
  · rename_i heq
    cases heq
  · rename_i heq
    exact absurd (List.cons.inj heq).1 hfeed
  · rename_i heq
    exact absurd (List.cons.inj heq).1 hcomment
  · rename_i heq
    exact absurd (List.cons.inj heq).1 hbracket
  · rw [hread]
    show (Outline.readLines fuel t).cons ([e.1], e.2) = _
    rw [h fuel (by omega)]

theorem header (k : Text) :
    Reads ('[' :: key k ++ ']' :: '\n' :: t) (o.underHeader false [k] (key k ++ ']' :: '\n' :: t)) := by
  intro fuel hfuel
  simp only [List.cons_append, List.length_cons, List.length_append] at hfuel
  obtain ⟨fuel, rfl⟩ := Nat.exists_eq_add_one.2 (Nat.zero_lt_of_lt hfuel)
  have hskip : skipSpaces ('[' :: (key k ++ ']' :: '\n' :: t)) = '[' :: (key k ++ ']' :: '\n' :: t) := rfl
  have hend : readHeaderEnd false (']' :: '\n' :: t) = .ok t := rfl
  rw [List.cons_append, Outline.readLines, hskip]
  simp only [readPath_key, hend]
  rw [h fuel (by omega)]

end Reads

/-! ## Sections -/

theorem Reads.settings {t : Text} {o : Outline} {es : Entries} (h : Reads t o) (hes : ∀ e ∈ es, e.2.IsSetting) :
    Reads (es.flatMap settingLine ++ t)
      { o with top := { o.top with assignments := (es.map fun e => ([e.1], e.2)) ++ o.top.assignments } } := by
  induction es with
  | nil => exact h
  | cons e rest ih =>
    have hrest := ih fun a ha => hes a (List.mem_cons_of_mem e ha)
    have hfirst := hrest.assignment (hes e List.mem_cons_self)
    rwa [← List.append_assoc] at hfirst

/-- the entries of a document whose top holds nothing but sections -/
def ofSections (ss : List (Text × Entries)) : Entries := ss.map fun s => (s.1, .table s.2)

/-- a section as it is written -/
def sectionText (s : Text × Entries) : Text := '[' :: key s.1 ++ ']' :: '\n' :: s.2.flatMap settingLine

section

variable {es : Entries} (hes : ∀ e ∈ es, e.2.IsSetting)
include hes

theorem plainLines_settings : plainLines es = es.flatMap settingLine := by
  have hall : es.filter (fun e => !e.2.isSection) = es :=
    List.filter_eq_self.2 fun e he => by simp [(hes e he).isSection_eq_false]
  rw [plainLines, hall]
  rfl

theorem sections_settings (path : Text) (plain begins : Bool) : sections path plain begins es = [] := by
  induction es generalizing begins with
  | nil => rw [sections]
  | cons e rest ih =>
    obtain ⟨k, v⟩ := e
    have hfirst : entrySection (pathTo path k) plain begins v = [] := by
      have hnone : v.isSection = false := (hes (k, v) List.mem_cons_self).isSection_eq_false
      cases v with
      | table inner => cases hnone
      | list items =>
        have harray : ¬ (Value.list items).isTableArray = true := by
          rw [Bool.not_eq_true]
          exact (Bool.or_eq_false_iff.1 hnone).2
        rw [entrySection, if_neg harray]
      | _ => simp [entrySection]
    rw [sections, hfirst, ih fun e he => hes e (List.mem_cons_of_mem _ he)]
    rfl

/-- a table of settings has a header -/
theorem tableHeader_settings (path : Text) : tableHeader path es = ['['] ++ path ++ [']', '\n'] := by
  have hheader : (es.isEmpty || hasPlain es) = true := by
    cases es with
    | nil => rfl
    | cons e rest => simp [hasPlain, (hes e List.mem_cons_self).isSection_eq_false]
  rw [tableHeader, if_pos hheader]

end

/-- nothing stands before the first section -/
theorem document_ofSections (ss : List (Text × Entries)) :
    document (ofSections ss) = sections [] false true (ofSections ss) := by
  have hsection : ∀ e ∈ ofSections ss, ¬ (!e.2.isSection) = true := by
    intro e he
    obtain ⟨s, -, rfl⟩ := List.mem_map.1 he
    simp [Value.isSection, Value.isTable]
  have hplain : hasPlain (ofSections ss) = false := List.any_eq_false.2 hsection
  rw [document, plainLines, List.filter_eq_nil_iff.2 hsection, hplain]
  rfl

theorem sections_ofSections_cons {s : Text × Entries} {ss : List (Text × Entries)} (hs : ∀ e ∈ s.2, e.2.IsSetting)
    (begins : Bool) :
    sections [] false begins (ofSections (s :: ss)) =
      emptyLine (!begins) ++ (sectionText s ++ sections [] false false (ofSections ss)) := by
  have hpath : pathTo [] s.1 = key s.1 := rfl
  show sections [] false begins ((s.1, .table s.2) :: ofSections ss) = _
  rw [sections, entrySection, hpath, tableHeader_settings hs, plainLines_settings hs, sections_settings hs]
  simp [sectionText]

/-- the section says just this -/
structure Section.Holds (s : Section) (e : Text × Entries) : Prop where
  ofArray : s.ofArray = false
  path : s.path = [e.1]
  paragraph : s.paragraph = { assignments := e.2.map fun a => ([a.1], a.2) }

/-- a written section is laid out as a section that says what was written -/
theorem Reads.writtenSection {t : Text} {following : List Section} {s : Text × Entries}
    (h : Reads t { sections := following }) (hs : ∀ e ∈ s.2, e.2.IsSetting) :
    ∃ first : Section, first.Holds s ∧ Reads (sectionText s ++ t) { sections := first :: following } := by
  have hheader := (h.settings hs).header s.1
  refine ⟨⟨false, [s.1], { assignments := s.2.map fun a => ([a.1], a.2) },
    key s.1 ++ ']' :: '\n' :: (s.2.flatMap settingLine ++ t)⟩, ⟨rfl, rfl, rfl⟩, ?_⟩
  simpa [sectionText, Outline.underHeader] using hheader

/-- **Written sections are laid out as they were written**, whatever empty lines and comments follow them. -/
theorem reads_sections {ss : List (Text × Entries)} (hss : ∀ s ∈ ss, ∀ e ∈ s.2, e.2.IsSetting) {tail : Text}
    (htail : Reads tail {}) (begins : Bool) :
    ∃ read : List Section, Reads (sections [] false begins (ofSections ss) ++ tail) { sections := read } ∧
      List.Forall₂ Section.Holds read ss := by
  induction ss generalizing begins with
  | nil => exact ⟨[], by rw [ofSections, List.map_nil, sections]; exact htail, .nil⟩
  | cons s rest ih =>
    obtain ⟨following, hread, hholds⟩ := ih (fun r hr => hss r (List.mem_cons_of_mem s hr)) false
    obtain ⟨first, hfirst, hsection⟩ := hread.writtenSection (hss s List.mem_cons_self)
    refine ⟨first :: following, ?_, .cons hfirst hholds⟩
    rw [sections_ofSections_cons (hss s List.mem_cons_self), List.append_assoc, List.append_assoc]
    cases begins with
    | true => exact hsection
    | false => exact hsection.emptyLine

/-! ## Characters of a written document -/

/-- the text ends with one line feed -/
def EndsLine (t : Text) : Prop := ∃ front last, t = front ++ [last, '\n'] ∧ last ≠ '\n'

theorem EndsLine.append {t : Text} (h : EndsLine t) (before : Text) : EndsLine (before ++ t) := by
  obtain ⟨front, last, rfl, hlast⟩ := h
  exact ⟨before ++ front, last, by rw [List.append_assoc], hlast⟩

/-- dropping the line ends of a text and putting one there again changes nothing -/
theorem EndsLine.dropEndWhile {t : Text} (h : EndsLine t) : Text.dropEndWhile (· == '\n') t ++ ['\n'] = t := by
  obtain ⟨front, last, rfl, hlast⟩ := h
  simp [Text.dropEndWhile, hlast]

/-- no control character stands in a line before its end -/
theorem isPlain_line {e : Text × Value} (h : e.2.IsSetting) : IsPlain (key e.1 ++ " = ".toList ++ inline e.2) :=
  isPlain_append.2 ⟨isPlain_append.2 ⟨isPlain_key e.1, by decide⟩, h.isPlain_inline⟩

theorem endsLine_settingLine {e : Text × Value} (h : e.2.IsSetting) : EndsLine (settingLine e) := by
  obtain ⟨front, last, hfront⟩ : ∃ front last, key e.1 ++ " = ".toList ++ inline e.2 = front ++ [last] :=
    ⟨_, _, (List.dropLast_append_getLast (by simp)).symm⟩
  have hlast : isControl last = false := isPlain_line h last (by rw [hfront]; simp)
  refine ⟨front, last, ?_, ?_⟩
  · show key e.1 ++ " = ".toList ++ inline e.2 ++ ['\n'] = _
    rw [hfront, List.append_assoc]
    rfl
  · rintro rfl
    exact absurd hlast (by decide)

theorem endsLine_sectionText {s : Text × Entries} (hs : ∀ e ∈ s.2, e.2.IsSetting) : EndsLine (sectionText s) := by
  obtain ⟨k, es⟩ := s
  rcases List.eq_nil_or_concat es with rfl | ⟨front, e, rfl⟩
  · exact ⟨'[' :: key k, ']', by simp [sectionText], by decide⟩
  · have hline := endsLine_settingLine (hs e (by simp))
    have htext : sectionText (k, front ++ [e]) =
        ('[' :: key k ++ ']' :: '\n' :: front.flatMap settingLine) ++ settingLine e := by
      simp [sectionText]
    rw [List.concat_eq_append, htext]
    exact hline.append _

theorem hasPlainLines_settings {es : Entries} (hes : ∀ e ∈ es, e.2.IsSetting) :
    HasPlainLines (es.flatMap settingLine) := by
  intro c hc
  obtain ⟨e, he, hmem⟩ := List.mem_flatMap.1 hc
  exact (isPlain_line (hes e he)).line (fun _ h => by cases h) c hmem

theorem hasPlainLines_sectionText {s : Text × Entries} (hs : ∀ e ∈ s.2, e.2.IsSetting) :
    HasPlainLines (sectionText s) := by
  have hheader : IsPlain ('[' :: key s.1 ++ [']']) :=
    isPlain_append.2 ⟨isPlain_cons.2 ⟨by decide, isPlain_key s.1⟩, by decide⟩
  have hlines := hheader.line (hasPlainLines_settings hs)
  rwa [List.append_assoc] at hlines

section

variable {ss : List (Text × Entries)} (hss : ∀ s ∈ ss, ∀ e ∈ s.2, e.2.IsSetting)
include hss

theorem endsLine_sections (hne : ss ≠ []) (begins : Bool) : EndsLine (sections [] false begins (ofSections ss)) := by
  induction ss generalizing begins with
  | nil => exact absurd rfl hne
  | cons s rest ih =>
    have hs := hss s List.mem_cons_self
    rw [sections_ofSections_cons hs]
    cases rest with
    | nil =>
      have hnone : sections [] false false (ofSections []) = [] := by rw [ofSections, List.map_nil, sections]
      rw [hnone, List.append_nil]
      exact (endsLine_sectionText hs).append _
    | cons r more =>
      have hrest := ih (fun u hu => hss u (List.mem_cons_of_mem s hu)) (List.cons_ne_nil r more) false
      exact (hrest.append _).append _

theorem hasPlainLines_sections (begins : Bool) : HasPlainLines (sections [] false begins (ofSections ss)) := by
  induction ss generalizing begins with
  | nil =>
    rw [ofSections, List.map_nil, sections]
    intro c hc
    cases hc
  | cons s rest ih =>
    have hs := hss s List.mem_cons_self
    have hempty : HasPlainLines (emptyLine (!begins)) := by
      intro c hc _
      cases begins with
      | true => cases hc
      | false => exact List.mem_singleton.1 hc
    have hrest := ih (fun u hu => hss u (List.mem_cons_of_mem s hu)) false
    rw [sections_ofSections_cons hs]
    exact hasPlainLines_append.2 ⟨hempty, hasPlainLines_append.2 ⟨hasPlainLines_sectionText hs, hrest⟩⟩

end

end Linewise.Toml
