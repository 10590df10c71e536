/-
The scope, from the statements dispatched so far.

Each statement is decided by at most one shape, whatever came before it (`decider?`), and three things are remembered of
the statements: the class of the last class header, and for each of the two kinds of decorator whether one of it came
after the last definition (`Awaits`). `dispatch_history` says that the scope is exactly that after any statements, with
nothing else of the context changed, and that a definition is rendered on its class just if a static decorator awaits it.
What the deciding shapes stand for in the text is said by `classNamed?_eq_some_iff`, `decider?_eq_staticDecorator_iff`,
`decider?_eq_propertyDecorator_iff` and `ofStatement?_eq_definition_iff`.
-/
import Linewise.Assembler
import Linewise.Proofs.Parameters

namespace Linewise

open Pattern

/-! ## What decides a statement -/

/-- the shape that decides a statement -/
def decider? (t : Text) : Option Shape := (Shape.ofStatement? t).map Prod.fst

/-- the class that a class header names, with a base or without one -/
def classNamed? (t : Text) : Option Text :=
  match Shape.ofStatement? t with
  | some (.classWithBase, found) => some (found.group 1)
  | some (.classHeader, found) => some (found.group 1)
  | _ => none

theorem matchStart_of_ofStatement? {t : Text} {s : Shape} {found : Found} (h : Shape.ofStatement? t = some (s, found)) :
    s.pattern.matchStart t = some found := by
  obtain ⟨s', -, hs'⟩ := List.exists_of_findSome?_eq_some h
  obtain ⟨found', hfound, hpair⟩ := Option.map_eq_some_iff.1 hs'
  obtain ⟨rfl, rfl⟩ := Prod.mk.inj hpair
  exact hfound

theorem isSome_matchStart_of_decider? {t : Text} {s : Shape} (h : decider? t = some s) :
    (s.pattern.matchStart t).isSome = true := by
  obtain ⟨⟨_, found⟩, hfound, rfl⟩ := Option.map_eq_some_iff.1 h
  rw [matchStart_of_ofStatement? hfound]
  rfl

/-! ### Class headers -/

/-- the header of a class up to the end of its name; no character of the name comes after it -/
structure NamesClass (t name rest : Text) : Prop where
  eq : ∃ gap, t = "class" ++ (gap ++ (name ++ rest)) ∧ gap ≠ [] ∧ ∀ c ∈ gap, isBlank c = true
  isWord : IsWord name
  apart : BeginsApart rest

/-- the name of a class is told by the text -/
theorem NamesClass.unique {t name name' rest rest' : Text} (h : NamesClass t name rest) (h' : NamesClass t name' rest') :
    name = name' := by
  obtain ⟨⟨gap, rfl, -, hblank⟩, hword, hapart⟩ := h
  obtain ⟨⟨gap', hcut, -, hblank'⟩, hword', hapart'⟩ := h'
  obtain ⟨-, hname⟩ := eq_of_longest_run (List.append_cancel_left hcut) hblank (hword.isBlank_head rest) hblank'
    (hword'.isBlank_head rest')
  exact (eq_of_longest_run hname hword.all_word hapart.of_mem hword'.all_word hapart'.of_mem).1

theorem NamesClass.matchStart {t name rest : Text} (h : NamesClass t name rest) :
    ∃ place, Shape.classHeader.pattern.matchStart t = some ⟨place, [(1, name)]⟩ := by
  obtain ⟨⟨gap, rfl, hgap, hblank⟩, hword, hapart⟩ := h
  have hvisible : ∀ c ∈ (name ++ rest).head?, CharSet.blank.contains .exact c = false := by
    simpa using hword.isBlank_head rest
  refine ⟨⟨("class" ++ (gap ++ name)).reverse, rest⟩, ?_⟩
  rw [Pattern.matchStart, Pattern.Place.start, Shape.pattern, run_chars_append, run_ofList_cons]
  refine run_plus_eq_some hgap (by simpa using hblank) hvisible ?_
  rw [run_ofList_cons, Shape.word, run_group]
  refine run_plus_eq_some hword.ne_nil (by simpa using hword.all_word) (by simpa using hapart.of_mem) ?_
  show Pattern.run .empty some _ = _
  rw [run_empty]
  simp

/-- a header with a base names its class as any header does -/
theorem namesClass_of_classWithBase {t : Text} {found : Found}
    (h : Shape.classWithBase.pattern.matchStart t = some found) : ∃ rest, NamesClass t (found.group 1) rest := by
  obtain ⟨_, hcut, -⟩ := isSome_chars_iff.1 (Option.isSome_iff_exists.2 ⟨found, h⟩)
  obtain rfl : t = _ := hcut
  rw [matchStart, Pattern.Place.start, Shape.pattern, run_chars_append, run_ofList_cons] at h
  obtain ⟨gap, _, rfl, hgap, hblank, h⟩ := exists_of_plus_eq_some h
  rw [run_ofList_cons, Shape.word, run_group] at h
  obtain ⟨name, _, rfl, hname, hword, h⟩ := exists_of_plus_eq_some h
  rw [run_ofList_cons] at h
  obtain ⟨space, _, rfl, hspace, h⟩ := exists_of_star_eq_some h
  rw [run_ofList_cons] at h
  obtain ⟨rest, rfl, h⟩ := exists_of_char_eq_some h
  -- what comes after the parenthesis is remembered as the second group
  rw [run_ofList_cons] at h
  obtain ⟨_, _, rfl, -, h⟩ := exists_of_star_eq_some h
  rw [run_ofList_cons, Shape.dotted, run_group] at h
  obtain ⟨base, _, rfl, -, -, h⟩ := exists_of_plus_eq_some h
  rw [run_ofList_cons] at h
  obtain ⟨_, _, rfl, -, h⟩ := exists_of_star_eq_some h
  rw [run_ofList_cons] at h
  obtain ⟨_, rfl, h⟩ := exists_of_char_eq_some h
  have hgroups : found.groups = [(2, base), (1, name)] := by
    change Pattern.run lastLineEnd some _ = some found at h
    rw [lastLineEnd, run_anchor] at h
    split at h
    · obtain rfl := Option.some.inj h
      simp
    · cases h
  have hfirst : found.group 1 = name := by
    rw [Found.group, Found.group?, hgroups]
    rfl
  rw [hfirst]
  exact ⟨_, ⟨gap, rfl, hgap, by simpa using hblank⟩, ⟨hname, by simpa using hword⟩,
    BeginsApart.of_blanks (by simpa using hspace) rfl⟩

/-- a text that begins with the word `class` and a name has a longest such name -/
theorem exists_namesClass {t : Text} (h : (Shape.classHeader.pattern.matchStart t).isSome = true) :
    ∃ name rest, NamesClass t name rest := by
  rw [matchStart, Pattern.Place.start, Shape.pattern, isSome_chars_iff] at h
  simp only [run_ofList_cons, Shape.word, run_group, wordChar, blank, isSome_plus_iff, CharSet.contains_word,
    CharSet.contains_blank] at h
  obtain ⟨_, ht, gap, _, rfl, hgap, hblank, start, left, rfl, hstart, hword, -⟩ := h
  obtain rfl : t = _ := ht
  refine ⟨start ++ left.takeWhile isWordChar, left.dropWhile isWordChar, ⟨gap, ?_, hgap, hblank⟩, ⟨?_, ?_⟩, ?_⟩
  · rw [List.append_assoc, List.takeWhile_append_dropWhile]
  · exact List.append_ne_nil_of_left_ne_nil hstart _
  · exact List.forall_mem_append.2 ⟨hword, fun c hc => List.mem_takeWhile_imp hc⟩
  · exact beginsApart_dropWhile left

/-- only the shapes of class headers begin with `class` -/
theorem ofStatement?_of_namesClass {t name rest : Text} (h : NamesClass t name rest) :
    ∃ found, (Shape.ofStatement? t = some (.classWithBase, found) ∨ Shape.ofStatement? t = some (.classHeader, found)) ∧
      found.group 1 = name := by
  have hshapes : (Shape.all.filter fun s => s.initial == 'c') = [.classWithBase, .classHeader] := by decide
  obtain ⟨place, hheader⟩ := h.matchStart
  obtain ⟨u, hu⟩ : ∃ u, t = 'c' :: u := by
    obtain ⟨gap, ht, -⟩ := h.eq
    exact ⟨_, ht⟩
  cases hbase : Shape.classWithBase.pattern.matchStart t with
  | some found =>
    obtain ⟨rest', hnames⟩ := namesClass_of_classWithBase hbase
    refine ⟨found, .inl ?_, hnames.unique h⟩
    subst hu
    rw [Shape.ofStatement?_cons, hshapes, List.findSome?_cons, hbase]
    rfl
  | none =>
    refine ⟨⟨place, [(1, name)]⟩, .inr ?_, rfl⟩
    subst hu
    rw [Shape.ofStatement?_cons, hshapes, List.findSome?_cons, hbase, Option.map_none, List.findSome?_cons, hheader]
    rfl

/-- **Class headers.** They are the texts that begin with `class` and a name. -/
theorem classNamed?_eq_some_iff {t name : Text} : classNamed? t = some name ↔ ∃ rest, NamesClass t name rest := by
  have hback {name rest : Text} (h : NamesClass t name rest) : classNamed? t = some name := by
    obtain ⟨found, hfound | hfound, hname⟩ := ofStatement?_of_namesClass h
    · rw [classNamed?, hfound, ← hname]
    · rw [classNamed?, hfound, ← hname]
  constructor
  · intro h
    have hnames : ∃ name rest, NamesClass t name rest := by
      rw [classNamed?] at h
      split at h
      · obtain ⟨rest, hnames⟩ := namesClass_of_classWithBase (matchStart_of_ofStatement? ‹_›)
        exact ⟨_, rest, hnames⟩
      · exact exists_namesClass (Option.isSome_iff_exists.2 ⟨_, matchStart_of_ofStatement? ‹_›⟩)
      · cases h
    obtain ⟨name', rest, hnames⟩ := hnames
    obtain rfl : name = name' := Option.some.inj (h.symm.trans (hback hnames))
    exact ⟨rest, hnames⟩
  · rintro ⟨rest, hnames⟩
    exact hback hnames

/-! ### Decorators and definitions -/

theorem isSome_literal_iff {t : Text} {k : Found → Option Found} {f : Found} :
    (Pattern.run (literal t) k f).isSome = true ↔
      ∃ left, f.place.after = t ++ left ∧ (k ⟨⟨t.reverse ++ f.place.before, left⟩, f.groups⟩).isSome = true := by
  have hempty : Pattern.run (.ofList []) k = k := funext fun g => run_empty k g
  have hliteral : literal t = .ofList (chars t ++ []) := by rw [List.append_nil, literal]
  rw [hliteral, isSome_chars_iff, hempty]

/-- a decorator stands alone on its line -/
theorem decider?_eq_staticDecorator_iff {t : Text} :
    decider? t = some .staticDecorator ↔
      t ∈ (["@staticmethod", "@staticmethod\n", "@classmethod", "@classmethod\n"] : List Text) := by
  simp only [List.mem_cons, List.not_mem_nil, or_false]
  constructor
  · intro h
    have hsome := isSome_matchStart_of_decider? h
    rw [matchStart, Pattern.Place.start, Shape.pattern, run_ofList_cons, isSome_char_iff] at hsome
    obtain ⟨left, rfl, hsome⟩ := hsome
    simp only [run_ofList_cons, run_alt, Option.isSome_or, Bool.or_eq_true, isSome_literal_iff, lastLineEnd,
      isSome_anchor_iff, holds_lastLineEnd_iff] at hsome
    obtain ⟨tail, rfl, rfl | rfl, -⟩ | ⟨tail, rfl, rfl | rfl, -⟩ := hsome
    · exact .inl rfl
    · exact .inr (.inl rfl)
    · exact .inr (.inr (.inl rfl))
    · exact .inr (.inr (.inr rfl))
  · rintro (rfl | rfl | rfl | rfl) <;> decide +kernel

theorem decider?_eq_propertyDecorator_iff {t : Text} :
    decider? t = some .propertyDecorator ↔ t ∈ (["@property", "@property\n"] : List Text) := by
  simp only [List.mem_cons, List.not_mem_nil, or_false]
  constructor
  · intro h
    have hsome := isSome_matchStart_of_decider? h
    rw [matchStart, Pattern.Place.start, Shape.pattern, isSome_chars_iff] at hsome
    simp only [run_ofList_cons, lastLineEnd, isSome_anchor_iff, holds_lastLineEnd_iff] at hsome
    obtain ⟨tail, ht, rfl | rfl, -⟩ := hsome
    · exact .inl ht
    · exact .inr ht
  · rintro (rfl | rfl) <;> decide +kernel

/-- a definition is a closed header, and the groups are its name and what stands between its parentheses -/
theorem ofStatement?_eq_definition_iff {t name inner : Text} :
    (∃ found, Shape.ofStatement? t = some (.definition, found) ∧ found.group 1 = name ∧ found.group 2 = inner) ↔
      ∃ gap space tail, t = "def" ++ (gap ++ (name ++ (space ++ '(' :: (inner ++ ')' :: tail)))) ∧ gap ≠ [] ∧
        IsWord name ∧ (∀ c ∈ gap, isBlank c = true) ∧ (∀ c ∈ space, isBlank c = true) ∧ '\n' ∉ inner ∧
          (tail = [] ∨ tail = ['\n']) := by
  have hback {name inner gap space tail : Text} (hgap : gap ≠ []) (hname : IsWord name)
      (hblank : ∀ c ∈ gap, isBlank c = true) (hspace : ∀ c ∈ space, isBlank c = true) (hinner : '\n' ∉ inner)
      (htail : tail = [] ∨ tail = ['\n']) :
      ∃ place, Shape.ofStatement? ("def" ++ (gap ++ (name ++ (space ++ '(' :: (inner ++ ')' :: tail))))) =
        some (.definition, ⟨place, [(2, inner), (1, name)]⟩) := by
    have hshape := Shape.ofStatement?_cons_d ("ef" ++ (gap ++ (name ++ (space ++ '(' :: (inner ++ ')' :: tail)))))
    have hmatch := matchStart_definition hgap hname hblank hspace hinner htail
    exact ⟨⟨("def" ++ (gap ++ (name ++ (space ++ '(' :: (inner ++ [')']))))).reverse, tail⟩,
      hshape.trans (congrArg (Option.map _) hmatch)⟩
  constructor
  · rintro ⟨found, hfound, rfl, rfl⟩
    have hsome := Option.isSome_iff_exists.2 ⟨found, matchStart_of_ofStatement? hfound⟩
    obtain ⟨_, ⟨_, ⟨gap, name, space, rfl, hgap, hname, hblank, hword, hspace⟩, rfl⟩, inner, tail, rfl, hinner, htail⟩ :=
      isSome_matchStart_definition_iff.1 hsome
    simp only [List.append_assoc] at hfound ⊢
    obtain ⟨place, hsame⟩ := hback hgap ⟨hname, hword⟩ hblank hspace hinner htail
    obtain rfl := (Prod.mk.inj (Option.some.inj (hfound.symm.trans hsame))).2
    exact ⟨gap, space, tail, rfl, hgap, ⟨hname, hword⟩, hblank, hspace, hinner, htail⟩
  · rintro ⟨gap, space, tail, rfl, hgap, hname, hblank, hspace, hinner, htail⟩
    obtain ⟨place, hfound⟩ := hback hgap hname hblank hspace hinner htail
    exact ⟨_, hfound, rfl, rfl⟩

/-! ## One statement -/

/-- what one statement does to the scope -/
theorem scope_dispatch (tables : Tables) (scope : Scope) (t : Text) :
    (dispatch tables scope t).scope =
      { className := (classNamed? t).getD scope.className
        nextIsStatic :=
          decider? t == some .staticDecorator || (scope.nextIsStatic && decider? t != some .definition)
        nextIsProperty :=
          decider? t == some .propertyDecorator || (scope.nextIsProperty && decider? t != some .definition) } := by
  obtain ⟨className, isStatic, isProperty⟩ := scope
  rw [dispatch, classNamed?, decider?]
  cases Shape.ofStatement? t with
  | none => cases isStatic <;> cases isProperty <;> rfl
  | some decision =>
    obtain ⟨shape, found⟩ := decision
    cases shape <;> cases isStatic <;> cases isProperty <;> rfl

/-- a definition as it is rendered while no static decorator awaits it -/
def headerAlone (tables : Tables) (name list : Text) : Text :=
  definitionHeader (specialName tables name) (dropReceiver ["self"] (parameters list))

/-- a definition as it is rendered on its class -/
def headerOnClass (tables : Tables) (className name list : Text) : Text :=
  definitionHeader (className ++ ['.'] ++ specialName tables name) (dropReceiver ["self", "cls"] (parameters list))

theorem text_dispatch_of_definition (tables : Tables) (scope : Scope) {t : Text} {found : Found}
    (h : Shape.ofStatement? t = some (.definition, found)) :
    (dispatch tables scope t).text =
      some (if scope.nextIsStatic then headerOnClass tables scope.className (found.group 1) (found.group 2)
        else headerAlone tables (found.group 1) (found.group 2)) := by
  rw [dispatch, h]
  show some (renderDefinition _ _ _ _) = _
  rw [renderDefinition_eq, Scope.headerName, Scope.receivers]
  cases scope.nextIsStatic <;> rfl

theorem count_join (pieces : List Text) : (Text.join ", " pieces).count '.' = pieces.flatten.count '.' := by
  induction pieces with
  | nil => rfl
  | cons piece rest ih =>
    by_cases hrest : rest = []
    · subst hrest
      rw [Text.join_singleton, List.flatten_singleton]
    · rw [Text.join_cons_of_ne hrest, List.count_append, List.count_append, ih, List.flatten_cons, List.count_append]
      rfl

theorem count_definitionHeader (name : Text) (params : List Text) :
    (definitionHeader name params).count '.' = name.count '.' + params.flatten.count '.' := by
  rw [definitionHeader]
  split
  · rename_i hempty
    obtain rfl := List.isEmpty_iff.1 hempty
    simp
  · rw [List.count_append, List.count_append, List.count_append, List.count_append, count_join]
    simp

theorem count_dropReceiver {receivers : List Text} (h : ∀ r ∈ receivers, r.count '.' = 0) (params : List Text) :
    (dropReceiver receivers params).flatten.count '.' = params.flatten.count '.' := by
  cases params with
  | nil => rfl
  | cons p rest =>
    rw [dropReceiver]
    split
    · rename_i hmem
      rw [List.flatten_cons, List.count_append, h p (by simpa using hmem), Nat.zero_add]
    · rfl

/-- the dot after the class tells the two apart -/
theorem headerOnClass_ne_headerAlone (tables : Tables) (className name list : Text) :
    headerOnClass tables className name list ≠ headerAlone tables name list := by
  intro h
  have hcount := congrArg (List.count '.') h
  rw [headerOnClass, headerAlone, count_definitionHeader, count_definitionHeader, count_dropReceiver (by decide),
    count_dropReceiver (by decide)] at hcount
  simp only [List.count_append, List.count_singleton_self] at hcount
  omega

/-! ## Statements one after another -/

/-- the class that the last class header names -/
def lastClassName (texts : List Text) : Text := (texts.filterMap classNamed?).getLast?.getD unknownClassName

/-- a text decided by the shape comes after the last one decided as a definition -/
def Awaits (decorator : Shape) (texts : List Text) : Prop :=
  ∃ before t after, texts = before ++ t :: after ∧ decider? t = some decorator ∧
    ∀ u ∈ after, decider? u ≠ some .definition

theorem lastClassName_snoc (texts : List Text) (t : Text) :
    lastClassName (texts ++ [t]) = (classNamed? t).getD (lastClassName texts) := by
  rw [lastClassName, List.filterMap_append]
  cases h : classNamed? t with
  | none => simp [h, lastClassName]
  | some name => simp [h]

theorem not_awaits_nil (decorator : Shape) : ¬ Awaits decorator [] := by
  rintro ⟨before, t, after, h, -⟩
  cases before <;> cases h

theorem awaits_snoc_iff {decorator : Shape} {texts : List Text} {t : Text} :
    Awaits decorator (texts ++ [t]) ↔
      decider? t = some decorator ∨ (Awaits decorator texts ∧ decider? t ≠ some .definition) := by
  constructor
  · rintro ⟨before, u, after, h, hu, hafter⟩
    rcases List.eq_nil_or_concat after with rfl | ⟨after, v, rfl⟩
    · obtain ⟨-, hlast⟩ := List.append_inj' h rfl
      obtain rfl := (List.cons.inj hlast).1
      exact .inl hu
    · rw [List.concat_eq_append] at h hafter
      rw [← List.cons_append, ← List.append_assoc] at h
      obtain ⟨rfl, hlast⟩ := List.append_inj' h rfl
      obtain rfl := (List.cons.inj hlast).1
      exact .inr ⟨⟨before, u, after, rfl, hu, fun w hw => hafter w (List.mem_append_left _ hw)⟩, hafter t (by simp)⟩
  · rintro (ht | ⟨⟨before, u, after, rfl, hu, hafter⟩, ht⟩)
    · exact ⟨texts, t, [], rfl, ht, fun u hu => absurd hu List.not_mem_nil⟩
    · refine ⟨before, u, after ++ [t], by simp, hu, ?_⟩
      exact List.forall_mem_append.2 ⟨hafter, by simpa using ht⟩

/-- the scope after the texts is what is remembered of them -/
theorem scopeAfter_history (tables : Tables) (texts : List Text) :
    let scope := scopeAfter tables {} texts
    scope.className = lastClassName texts ∧ (scope.nextIsStatic = true ↔ Awaits .staticDecorator texts) ∧
      (scope.nextIsProperty = true ↔ Awaits .propertyDecorator texts) := by
  induction texts using List.reverseRecOn with
  | nil =>
    refine ⟨rfl, iff_of_false Bool.false_ne_true ?_, iff_of_false Bool.false_ne_true ?_⟩ <;> exact not_awaits_nil _
  | append_singleton texts t ih =>
    obtain ⟨hclass, hstatic, hproperty⟩ := ih
    simp only [scopeAfter_snoc, scope_dispatch, lastClassName_snoc, awaits_snoc_iff, hclass, ← hstatic, ← hproperty,
      Bool.or_eq_true, Bool.and_eq_true, beq_iff_eq, bne_iff_ne, ne_eq, and_self]

/-- the context after the texts -/
def Context.dispatched (tables : Tables) (c : Context) (texts : List Text) : Context :=
  texts.foldl (fun c t => { c with scope := (dispatch tables c.scope t).scope }) c

theorem Context.dispatched_eq (tables : Tables) (c : Context) (texts : List Text) :
    c.dispatched tables texts = { c with scope := scopeAfter tables c.scope texts } := by
  induction texts generalizing c with
  | nil => rfl
  | cons t rest ih =>
    rw [dispatched, List.foldl_cons, ← dispatched, ih]
    rfl

/-- **The scope of a statement.** Dispatch any texts in a fresh scope. The class is the one that the last class header
named, and a decorator of either kind awaits its definition just if one came after the last definition; nothing else of
the context has changed. So a definition that comes next is rendered on that class, less a leading `cls`, just if a static
decorator awaits it. -/
theorem dispatch_history (tables : Tables) (c : Context) (texts : List Text) :
    let after := ({ c with scope := {} } : Context).dispatched tables texts
    after = { c with scope := after.scope } ∧
      after.scope.className = lastClassName texts ∧
      (after.scope.nextIsStatic = true ↔ Awaits .staticDecorator texts) ∧
      (after.scope.nextIsProperty = true ↔ Awaits .propertyDecorator texts) ∧
      ∀ t found, Shape.ofStatement? t = some (.definition, found) →
        let name := found.group 1
        let list := found.group 2
        ((dispatch tables after.scope t).text = some (headerOnClass tables (lastClassName texts) name list) ↔
          Awaits .staticDecorator texts) ∧
        ((dispatch tables after.scope t).text = some (headerAlone tables name list) ↔
          ¬ Awaits .staticDecorator texts) := by
  rw [Context.dispatched_eq]
  obtain ⟨hclass, hstatic, hproperty⟩ := scopeAfter_history tables texts
  refine ⟨rfl, hclass, hstatic, hproperty, fun t found hfound => ?_⟩
  have hne := headerOnClass_ne_headerAlone tables (lastClassName texts) (found.group 1) (found.group 2)
  rw [text_dispatch_of_definition tables _ hfound, ← hstatic, hclass]
  cases (scopeAfter tables {} texts).nextIsStatic with
  | true => simpa using hne
  | false => simpa using hne.symm

/-- a class method after a property of another class -/
theorem class_method_after_property :
    let texts : List Text := ["class Point(Base)", "@property", "def x(self)", "class Shape", "@classmethod", "y = 1"]
    let t : Text := "def __str__(cls, y)"
    lastClassName texts = "Shape" ∧ Awaits .staticDecorator texts ∧ ¬ Awaits .propertyDecorator texts ∧
      decider? t = some .definition ∧
      (dispatch .standard (({} : Context).dispatched .standard texts).scope t).text =
        some "def Shape.to_s (y)".toList := by
  intro texts t
  obtain ⟨found, hfound, hname, hlist⟩ := @ofStatement?_eq_definition_iff t "__str__" "cls, y" |>.2
    ⟨" ", [], [], by decide, by decide, by decide, List.forall_mem_singleton.2 rfl, List.forall_mem_nil _, by decide,
      .inl rfl⟩
  obtain ⟨-, hclass, hstatic, hproperty, hrender⟩ := dispatch_history .standard {} texts
  obtain ⟨hshared, -⟩ := hrender t found hfound
  have hawaits : Awaits .staticDecorator texts := hstatic.1 (by decide +kernel)
  refine ⟨hclass.symm.trans (by decide +kernel), hawaits, mt hproperty.2 (by decide +kernel), by rw [decider?, hfound]; rfl,
    (hshared.2 hawaits).trans ?_⟩
  rw [hname, hlist]
  decide +kernel

end Linewise
