/-
Decorators and the definitions they are about.

A decorator leaves a mark in the scope, and the next definition takes it away. `IsHeader` is what every definition begins
with: the word `def`, a name and an opening parenthesis. The shape of a definition asks for more, a closing parenthesis
at the end (`isSome_matchStart_definition_iff`), and a header that is not closed there is passed on as any other
statement, with the marks still in the scope. `header_clears_decorators_iff` says so for every run of statements;
`annotated_header_keeps_decorator` is a header with a result type, after which a mark meant for it changes the next one.
-/
import Linewise.Proofs.Pattern.Sequences
import Linewise.Shape

namespace Linewise

open Pattern

/-! ## Headers -/

/-- how a definition begins, up to its opening parenthesis -/
def HeaderStart (s : Text) : Prop :=
  ∃ gap name space : Text, s = "def" ++ (gap ++ (name ++ space)) ∧ gap ≠ [] ∧ name ≠ [] ∧
    (∀ c ∈ gap, isBlank c = true) ∧ (∀ c ∈ name, isWordChar c = true) ∧ ∀ c ∈ space, isBlank c = true

/-- the text begins like a definition, with `rest` after the opening parenthesis -/
def IsHeader (t rest : Text) : Prop := ∃ s, HeaderStart s ∧ t = s ++ '(' :: rest

/-- a closing parenthesis ends the text, or its only line -/
def IsClosed (rest : Text) : Prop :=
  ∃ inner tail, rest = inner ++ ')' :: tail ∧ '\n' ∉ inner ∧ (tail = [] ∨ tail = ['\n'])

theorem holds_lastLineEnd_iff {p : Pattern.Place} :
    Anchor.lastLineEnd.holds p = true ↔ p.after = [] ∨ p.after = ['\n'] := by
  simp [Anchor.holds]

/-- the shape of a definition is a header that is closed -/
theorem isSome_matchStart_definition_iff {t : Text} :
    (Shape.definition.pattern.matchStart t).isSome = true ↔ ∃ rest, IsHeader t rest ∧ IsClosed rest := by
  rw [matchStart, Pattern.Place.start, Shape.pattern, isSome_chars_iff]
  simp only [run_ofList_cons, Shape.word, run_group, wordChar, blank, any, lastLineEnd, isSome_plus_iff,
    isSome_star_iff, isSome_char_iff, isSome_anchor_iff, holds_lastLineEnd_iff, CharSet.contains_word,
    CharSet.contains_blank, CharSet.contains_notNewline]
  constructor
  · rintro ⟨_, ht, gap, _, rfl, hgap, hblank, name, _, rfl, hname, hword, space, _, rfl, hspace, _, rfl, inner, _, rfl,
      hinner, tail, rfl, htail, -⟩
    refine ⟨inner ++ ')' :: tail, ⟨_, ⟨gap, name, space, rfl, hgap, hname, hblank, hword, hspace⟩, ?_⟩, inner, tail, rfl,
      ?_, htail⟩
    · simpa using ht
    · intro hmem
      simpa using hinner '\n' hmem
  · rintro ⟨_, ⟨_, ⟨gap, name, space, rfl, hgap, hname, hblank, hword, hspace⟩, rfl⟩, inner, tail, rfl, hinner, htail⟩
    have hline : ∀ c ∈ inner, (c != '\n') = true := by
      intro c hc
      exact bne_iff_ne.2 fun he => hinner (he ▸ hc)
    refine ⟨_, by simp, gap, _, rfl, hgap, hblank, name, _, rfl, hname, hword, space, _, rfl, hspace, _, rfl,
      inner, _, rfl, hline, tail, rfl, htail, ?_⟩
    show (run .empty some _).isSome = true
    rw [run_empty]
    rfl

/-! ## One statement -/

/-- only blanks and word characters stand before the opening parenthesis -/
theorem notMem_headerStart {s : Text} {c : Char} (h : HeaderStart s) (hblank : isBlank c = false)
    (hword : isWordChar c = false) : c ∉ s := by
  obtain ⟨gap, name, space, rfl, -, -, hgap, hname, hspace⟩ := h
  have hdef : ∀ x ∈ "def".toList, isWordChar x = true := List.all_eq_true.1 rfl
  intro hmem
  simp only [List.mem_append] at hmem
  rcases hmem with hmem | hmem | hmem | hmem
  · exact absurd (hdef c hmem) (by rw [hword]; exact Bool.noConfusion)
  · exact absurd (hgap c hmem) (by rw [hblank]; exact Bool.noConfusion)
  · exact absurd (hname c hmem) (by rw [hword]; exact Bool.noConfusion)
  · exact absurd (hspace c hmem) (by rw [hblank]; exact Bool.noConfusion)

theorem HeaderStart.length_le {s : Text} (h : HeaderStart s) : 5 ≤ s.length := by
  obtain ⟨gap, name, space, rfl, hgap, hname, -⟩ := h
  have := List.length_pos_iff.2 hgap
  have := List.length_pos_iff.2 hname
  simp only [List.length_append, String.length_toList]
  show 5 ≤ 3 + _
  omega

/-- what stands before the first opening parenthesis of a header -/
theorem IsHeader.headerStart {x y rest : Text} (h : IsHeader (x ++ '(' :: y) rest) (hx : '(' ∉ x) : HeaderStart x := by
  obtain ⟨s, hs, hcut⟩ := h
  have hnone {t : Text} (ht : '(' ∉ t) : ∀ c ∈ t, (c != '(') = true := fun c hc => bne_iff_ne.2 fun he => ht (he ▸ hc)
  obtain ⟨rfl, -⟩ := eq_of_longest_run hcut (hnone hx) (by rintro _ ⟨⟩; rfl)
    (hnone (notMem_headerStart hs (by decide) (by decide))) (by rintro _ ⟨⟩; rfl)
  exact hs

/-- the opening parenthesis of a header is the first one in it -/
theorem dropWhile_of_isHeader {t rest : Text} (h : IsHeader t rest) : t.dropWhile (· != '(') = '(' :: rest := by
  obtain ⟨s, hs, rfl⟩ := h
  have hbefore : ∀ c ∈ s, (c != '(') = true := by
    intro c hc
    exact bne_iff_ne.2 fun he => notMem_headerStart hs (by decide) (by decide) (he ▸ hc)
  rw [List.dropWhile_append_of_pos hbefore]
  rfl

theorem isSome_matchStart_iff_isClosed {t rest : Text} (h : IsHeader t rest) :
    (Shape.definition.pattern.matchStart t).isSome = true ↔ IsClosed rest := by
  rw [isSome_matchStart_definition_iff]
  constructor
  · rintro ⟨rest', h', hclosed⟩
    have hsame : '(' :: rest' = '(' :: rest := (dropWhile_of_isHeader h').symm.trans (dropWhile_of_isHeader h)
    obtain rfl := (List.cons.inj hsame).2
    exact hclosed
  · intro hclosed
    exact ⟨rest, h, hclosed⟩

/-- the character that every statement of a shape begins with -/
def Shape.initial : Shape → Char
  | .importModule => 'i'
  | .importFrom => 'f'
  | .classWithBase => 'c'
  | .classHeader => 'c'
  | .staticDecorator => '@'
  | .propertyDecorator => '@'
  | .definition => 'd'
  | .tryBlock => 't'
  | .handlerWithName => 'e'
  | .handlerOfType => 'e'
  | .handler => 'e'
  | .finallyBlock => 'f'
  | .resourceWithName => 'w'
  | .resource => 'w'
  | .assertion => 'a'

theorem Shape.exists_pattern_eq (s : Shape) : ∃ ps, s.pattern = .ofList (char s.initial :: ps) := by
  cases s <;> exact ⟨_, rfl⟩

/-- a statement that begins with another character is not of the shape -/
theorem Shape.matchStart_eq_none {s : Shape} {c : Char} {t : Text} (h : c ≠ s.initial) :
    s.pattern.matchStart (c :: t) = none := by
  obtain ⟨ps, hps⟩ := s.exists_pattern_eq
  rw [← Option.not_isSome_iff_eq_none, matchStart, hps, run_ofList_cons, isSome_char_iff]
  rintro ⟨left, hcut, -⟩
  exact h (List.cons.inj hcut).1

/-- only the shapes that begin with the first character of a statement can be its own -/
theorem Shape.ofStatement?_cons (c : Char) (t : Text) :
    ofStatement? (c :: t) =
      (all.filter fun s => s.initial == c).findSome? fun s => (s.pattern.matchStart (c :: t)).map fun f => (s, f) := by
  rw [ofStatement?]
  induction all with
  | nil => rfl
  | cons s rest ih =>
    rw [List.findSome?_cons, List.filter_cons, ih]
    by_cases hs : s.initial = c
    · rw [if_pos (beq_iff_eq.2 hs), List.findSome?_cons]
    · rw [matchStart_eq_none fun he => hs he.symm, if_neg (mt beq_iff_eq.1 hs)]
      rfl

/-- no other shape begins as a definition does -/
theorem Shape.ofStatement?_cons_d (t : Text) :
    ofStatement? ('d' :: t) = (definition.pattern.matchStart ('d' :: t)).map fun f => (definition, f) := by
  have hshapes : (all.filter fun s => s.initial == 'd') = [definition] := by decide
  rw [ofStatement?_cons, hshapes, List.findSome?_singleton]

theorem Shape.ofStatement?_of_isHeader {t rest : Text} (h : IsHeader t rest) :
    ofStatement? t = (definition.pattern.matchStart t).map fun f => (definition, f) := by
  obtain ⟨_, ⟨gap, name, space, rfl, -⟩, rfl⟩ := h
  exact ofStatement?_cons_d _

/-- a closed header takes the marks of the decorators away -/
theorem scope_dispatch_of_isClosed (tables : Tables) (scope : Scope) {t rest : Text} (h : IsHeader t rest)
    (hclosed : IsClosed rest) :
    (dispatch tables scope t).scope = { scope with nextIsStatic := false, nextIsProperty := false } := by
  obtain ⟨found, hfound⟩ := Option.isSome_iff_exists.1 ((isSome_matchStart_iff_isClosed h).2 hclosed)
  rw [dispatch, Shape.ofStatement?_of_isHeader h, hfound]
  rfl

/-- a header that is not closed is passed on as it is -/
theorem dispatch_of_not_isClosed (tables : Tables) (scope : Scope) {t rest : Text} (h : IsHeader t rest)
    (hopen : ¬ IsClosed rest) : dispatch tables scope t = ⟨some t, none, scope⟩ := by
  have hnone := Option.not_isSome_iff_eq_none.1 (mt (isSome_matchStart_iff_isClosed h).1 hopen)
  rw [dispatch, Shape.ofStatement?_of_isHeader h, hnone]
  rfl

/-- a statement that begins with `d` and is no header is passed on as it is -/
theorem dispatch_of_not_isHeader (tables : Tables) (scope : Scope) {t : Text} (hfirst : t.head? = some 'd')
    (h : ∀ rest, ¬ IsHeader t rest) : dispatch tables scope t = ⟨some t, none, scope⟩ := by
  obtain ⟨t, rfl⟩ := List.head?_eq_some_iff.1 hfirst
  have hnone : Shape.definition.pattern.matchStart ('d' :: t) = none := by
    rw [← Option.not_isSome_iff_eq_none, isSome_matchStart_definition_iff]
    rintro ⟨rest, hheader, -⟩
    exact h rest hheader
  rw [dispatch, Shape.ofStatement?_cons_d, hnone]
  rfl

/-! ## Statements one after another -/

/-- what is made of the statements, one after another in one scope -/
def dispatchAll (tables : Tables) (scope : Scope) : List Text → List Dispatched
  | [] => []
  | t :: rest => dispatch tables scope t :: dispatchAll tables (dispatch tables scope t).scope rest

/-- the scope after the statements -/
def scopeAfter (tables : Tables) (scope : Scope) (texts : List Text) : Scope :=
  texts.foldl (fun s t => (dispatch tables s t).scope) scope

theorem scopeAfter_snoc (tables : Tables) (scope : Scope) (texts : List Text) (t : Text) :
    scopeAfter tables scope (texts ++ [t]) = (dispatch tables (scopeAfter tables scope texts) t).scope := by
  rw [scopeAfter, List.foldl_append]
  rfl

/-- no decorator awaits its definition -/
def Scope.isClear (s : Scope) : Bool := !s.nextIsStatic && !s.nextIsProperty

/-- **What a definition does to decorators.** Dispatch any statements and then the header of a definition. No decorator
awaits its definition any more just if the header is closed, or none did before it. After a closed header whatever comes
next is rendered the same, whichever decorators came before it. -/
theorem header_clears_decorators_iff (tables : Tables) (scope : Scope) (texts : List Text) {t rest : Text}
    (h : IsHeader t rest) :
    ((scopeAfter tables scope (texts ++ [t])).isClear = true ↔
      IsClosed rest ∨ (scopeAfter tables scope texts).isClear = true) ∧
    (IsClosed rest → ∀ others : List Text,
      (scopeAfter tables scope others).className = (scopeAfter tables scope texts).className →
      ∀ next, dispatchAll tables (scopeAfter tables scope (others ++ [t])) next =
        dispatchAll tables (scopeAfter tables scope (texts ++ [t])) next) := by
  constructor
  · rw [scopeAfter_snoc]
    by_cases hclosed : IsClosed rest
    · rw [scope_dispatch_of_isClosed tables _ h hclosed]
      exact iff_of_true rfl (.inl hclosed)
    · rw [dispatch_of_not_isClosed tables _ h hclosed]
      simp [hclosed]
  · intro hclosed others hclass next
    rw [scopeAfter_snoc, scopeAfter_snoc, scope_dispatch_of_isClosed tables _ h hclosed,
      scope_dispatch_of_isClosed tables _ h hclosed, hclass]

/-- two decorators before a closed header, and the same class without them -/
theorem closed_header_clears_two_decorators :
    let header : Text := "def f (cls, *, y=')')"
    let rest : Text := "cls, *, y=')')"
    let texts : List Text := ["class A(B)", "@classmethod", "@property", "x = 1"]
    let others : List Text := ["class A"]
    let next : List Text := ["def g(self, y)", "def h(cls)"]
    IsHeader header rest ∧ IsClosed rest ∧ (scopeAfter {} {} texts).isClear = false ∧
      (scopeAfter {} {} (texts ++ [header])).isClear = true ∧
      (scopeAfter {} {} others).className = (scopeAfter {} {} texts).className ∧
      dispatchAll {} (scopeAfter {} {} (others ++ [header])) next =
        dispatchAll {} (scopeAfter {} {} (texts ++ [header])) next := by
  intro header rest texts others next
  have hheader : IsHeader header rest :=
    ⟨"def f ", ⟨" ", "f", " ", rfl, by decide, by decide, List.all_eq_true.1 rfl, List.all_eq_true.1 rfl,
      List.all_eq_true.1 rfl⟩, rfl⟩
  have hclosed : IsClosed rest := ⟨"cls, *, y=')'", [], rfl, by decide, .inl rfl⟩
  have hclass : (scopeAfter {} {} others).className = (scopeAfter {} {} texts).className := by decide +kernel
  have hpending : (scopeAfter {} {} texts).isClear = false := by decide +kernel
  obtain ⟨hclear, hsame⟩ := header_clears_decorators_iff {} {} texts hheader
  exact ⟨hheader, hclosed, hpending, hclear.2 (.inl hclosed), hclass, hsame hclosed others hclass next⟩

/-- a header with a result type is not closed: the decorator meant for it makes the next definition static -/
theorem annotated_header_keeps_decorator :
    let texts : List Text := ["@staticmethod", "def f(x) -> int"]
    IsHeader "def f(x) -> int" "x) -> int" ∧ (scopeAfter {} {} texts).nextIsStatic = true ∧
      (dispatch {} (scopeAfter {} {} texts) "def g(self, y)").text = some "def ???.g (y)".toList ∧
      (dispatch {} {} "def g(self, y)").text = some "def g (y)".toList := by
  intro texts
  have hheader : IsHeader "def f(x) -> int" "x) -> int" :=
    ⟨"def f", ⟨" ", "f", [], rfl, by decide, by decide, List.all_eq_true.1 rfl, List.all_eq_true.1 rfl,
      List.all_eq_true.1 rfl⟩, rfl⟩
  refine ⟨hheader, ?_, ?_, ?_⟩ <;> decide +kernel

end Linewise
