/-
The bare calls of a text, and what renaming makes of them.

A `BareCall` is a name, perhaps blanks, and arguments without parentheses between parentheses. It stands in a text where
no word character and no dot comes right before its name. Two bare calls of a text never overlap
(`BareCall.Stands.disjoint`), so a text is a sequence of segments, each a bare call or another character, and
`replaceCalls` renames each call by itself: `replaceCalls_renames_each`.
-/
import Linewise.Config.Default
import Linewise.Edit.Calls
import Linewise.Proofs.Pattern.Occurrences
import Linewise.Proofs.Pattern.Sequences

namespace Linewise

/-- a character that is no parenthesis -/
def isInner (c : Char) : Bool := c != '(' && c != ')'

theorem isInner_of_class {p : Char → Bool} (hopen : p '(' = false) (hclose : p ')' = false) {c : Char}
    (h : p c = true) : isInner c = true := by
  rw [isInner, Bool.and_eq_true, bne_iff_ne, bne_iff_ne]
  constructor
  · rintro rfl
    rw [h] at hopen
    cases hopen
  · rintro rfl
    rw [h] at hclose
    cases hclose

theorem isInner_of_isWordChar {c : Char} (h : isWordChar c = true) : isInner c = true :=
  isInner_of_class (by decide) (by decide) h

theorem isInner_of_isBlank {c : Char} (h : isBlank c = true) : isInner c = true :=
  isInner_of_class (by decide) (by decide) h

/-- a name and arguments without parentheses between parentheses, with blanks between the two -/
structure BareCall where
  name : Text
  space : Text
  arguments : Text
  name_ne : name ≠ []
  name_word : ∀ c ∈ name, isWordChar c = true
  space_blank : ∀ c ∈ space, isBlank c = true
  arguments_ne : arguments ≠ []
  arguments_inner : ∀ c ∈ arguments, isInner c = true

namespace BareCall

/-- the call as it is written -/
def text (c : BareCall) : Text := c.name ++ (c.space ++ '(' :: (c.arguments ++ [')']))

/-- a call can begin after `before`: its name is not the end of a longer one, and not that of a method -/
def CanFollow (before : Text) : Prop := ∀ x ∈ before.getLast?, isWordChar x = false ∧ x ≠ '.'

/-- the call stands in the text, between `before` and `after` -/
def Stands (t before : Text) (c : BareCall) (after : Text) : Prop :=
  t = before ++ (c.text ++ after) ∧ CanFollow before

/-- the call as the tables rename it: a method of its arguments, else another function, else the call itself -/
def renamed (tables : Tables) (c : BareCall) : Text :=
  match tables.functionsToMethods.get? c.name, tables.functionsToFunctions.get? c.name with
  | some method, _ =>
    if c.arguments.all (fun x => isWordChar x || x == '.') then c.arguments ++ '.' :: method
    else '(' :: (c.arguments ++ ')' :: '.' :: method)
  | none, some function => function ++ '(' :: (c.arguments ++ [')'])
  | none, none => c.text

/-! ## How a call is written -/

theorem ext_parts {c d : BareCall} (hname : c.name = d.name) (hspace : c.space = d.space)
    (harguments : c.arguments = d.arguments) : c = d := by
  cases c
  cases d
  cases hname
  cases hspace
  cases harguments
  rfl

theorem text_eq (c : BareCall) : c.text = (c.name ++ c.space) ++ '(' :: (c.arguments ++ [')']) := by
  rw [text, List.append_assoc]

theorem text_ne (c : BareCall) : c.text ≠ [] := List.append_ne_nil_of_left_ne_nil c.name_ne _

/-- what stands before the opening parenthesis -/
theorem isInner_of_mem_head (c : BareCall) : ∀ x ∈ c.name ++ c.space, isInner x = true := by
  intro x h
  rcases List.mem_append.1 h with h | h
  · exact isInner_of_isWordChar (c.name_word x h)
  · exact isInner_of_isBlank (c.space_blank x h)

/-- what stands after the name is no word character -/
theorem isWordChar_of_head?_space (c : BareCall) (rest : Text) :
    ∀ x ∈ (c.space ++ '(' :: rest).head?, isWordChar x = false := by
  intro x hx
  cases hspace : c.space with
  | nil =>
    rw [hspace] at hx
    obtain rfl := Option.some.inj hx
    decide
  | cons y space =>
    rw [hspace] at hx
    obtain rfl := Option.some.inj hx
    exact isWordChar_of_isBlank (c.space_blank y (by rw [hspace]; exact List.mem_cons_self))

/-- texts without parentheses up to the first one -/
theorem eq_of_first_parenthesis {s t x y : Text} {a b : Char} (h : s ++ a :: x = t ++ b :: y)
    (hs : ∀ c ∈ s, isInner c = true) (ht : ∀ c ∈ t, isInner c = true) (ha : isInner a = false)
    (hb : isInner b = false) : s = t ∧ a = b ∧ x = y := by
  obtain ⟨hst, hrest⟩ := eq_of_longest_run h hs (by rintro _ ⟨⟩; exact ha) ht (by rintro _ ⟨⟩; exact hb)
  exact ⟨hst, List.cons.inj hrest⟩

/-- at most one call begins at a place of a text -/
theorem eq_of_text_append {c d : BareCall} {x y : Text} (h : c.text ++ x = d.text ++ y) : c = d ∧ x = y := by
  simp only [text_eq, List.append_assoc, List.cons_append] at h
  simp only [← List.append_assoc c.name, ← List.append_assoc d.name] at h
  obtain ⟨hhead, -, htail⟩ := eq_of_first_parenthesis h c.isInner_of_mem_head d.isInner_of_mem_head (by decide) (by decide)
  obtain ⟨harguments, -, hrest⟩ :=
    eq_of_first_parenthesis htail c.arguments_inner d.arguments_inner (by decide) (by decide)
  have hnames : c.name ++ (c.space ++ '(' :: []) = d.name ++ (d.space ++ '(' :: []) := by
    rw [← List.append_assoc, hhead, List.append_assoc]
  obtain ⟨hname, hspace⟩ := eq_of_longest_run hnames c.name_word (c.isWordChar_of_head?_space []) d.name_word
    (d.isWordChar_of_head?_space [])
  exact ⟨ext_parts hname (List.append_cancel_right hspace) harguments, hrest⟩

/-! ## Calls do not overlap -/

/-- a call does not begin inside another one -/
theorem length_le_of_inside {c d : BareCall} {b x y : Text} (h : c.text ++ x = b ++ (d.text ++ y)) (hb : b ≠ [])
    (hfollow : CanFollow b) : c.text.length ≤ b.length := by
  refine Nat.le_of_not_lt fun hlt => ?_
  -- `m` is what is left of the call after `b`
  obtain ⟨m, hm, hcut⟩ : ∃ m, c.text = b ++ m ∧ m ++ x = d.text ++ y := by
    rcases List.append_eq_append_iff.1 h with ⟨m, hm, -⟩ | ⟨m, hm, hcut⟩
    · rw [hm, List.length_append] at hlt
      omega
    · exact ⟨m, hm, hcut.symm⟩
  have hleft : m ≠ [] := by
    rintro rfl
    rw [hm, List.append_nil] at hlt
    exact Nat.lt_irrefl _ hlt
  rw [d.text_eq, List.append_assoc, List.cons_append] at hcut
  rw [text_eq] at hm
  rcases List.append_eq_append_iff.1 hm with ⟨s, -, hs⟩ | ⟨s, hhead, rfl⟩
  · have hsuffix : m <:+ '(' :: (c.arguments ++ [')']) := ⟨s, hs.symm⟩
    rcases List.suffix_cons_iff.1 hsuffix with rfl | hsuffix
    · -- `d` begins at the opening parenthesis, and its name there
      rw [List.cons_append] at hcut
      have hnone := (eq_of_first_parenthesis (s := []) hcut (by rintro _ ⟨⟩) d.isInner_of_mem_head (by decide) (by decide)).1
      exact d.name_ne (List.append_eq_nil_iff.1 hnone.symm).1
    · -- `d` begins in the arguments: the next parenthesis closes, and that of a call opens
      obtain ⟨u, rfl, hu⟩ := (List.suffix_concat_iff.1 hsuffix).resolve_left hleft
      rw [List.append_assoc] at hcut
      have hparens := (eq_of_first_parenthesis hcut (fun z hz => c.arguments_inner z (hu.subset hz))
        d.isInner_of_mem_head (by decide) (by decide)).2.1
      revert hparens
      decide
  · rw [List.append_assoc, List.cons_append] at hcut
    have hinner : ∀ z ∈ s, isInner z = true := fun z hz =>
      c.isInner_of_mem_head z (by rw [hhead]; exact List.mem_append_right b hz)
    obtain rfl := (eq_of_first_parenthesis hcut hinner d.isInner_of_mem_head (by decide) (by decide)).1
    rcases List.append_eq_append_iff.1 hhead with ⟨u, hu, hspace⟩ | ⟨u, hname, -⟩
    · -- `d` begins in the blanks
      obtain ⟨z, name, hname⟩ := List.exists_cons_of_ne_nil d.name_ne
      have hblank := c.space_blank z (by rw [hspace, hname]; simp)
      have hword := d.name_word z (by rw [hname]; exact List.mem_cons_self)
      rw [isWordChar_of_isBlank hblank] at hword
      cases hword
    · -- `d` begins in the name
      have hlast := List.getLast?_eq_some_getLast hb
      have hword := c.name_word _ (by rw [hname]; exact List.mem_append_left u (List.getLast_mem hb))
      rw [(hfollow _ hlast).1] at hword
      cases hword

theorem CanFollow.of_append {b u : Text} (h : CanFollow (b ++ u)) : CanFollow u := by
  intro x hx
  refine h x ?_
  rw [List.getLast?_append, hx]
  rfl

/-- a call that does not begin before another is the same, or begins after its end -/
theorem Stands.eq_or_le {t b u a a' : Text} {c d : BareCall} (hc : Stands t b c a) (hd : Stands t (b ++ u) d a') :
    (u = [] ∧ c = d ∧ a = a') ∨ c.text.length ≤ u.length := by
  have hcut : c.text ++ a = u ++ (d.text ++ a') := by
    have htexts := hc.1.symm.trans hd.1
    rw [List.append_assoc] at htexts
    exact List.append_cancel_left htexts
  by_cases hu : u = []
  · subst hu
    exact .inl ⟨rfl, eq_of_text_append hcut⟩
  · exact .inr (length_le_of_inside hcut hu hd.2.of_append)

/-- **Calls never overlap.** Two calls of a text are the same, or one ends before the other begins. -/
theorem Stands.disjoint {t b b' a a' : Text} {c d : BareCall} (hc : Stands t b c a) (hd : Stands t b' d a') :
    (b = b' ∧ c = d ∧ a = a') ∨ b.length + c.text.length ≤ b'.length ∨ b'.length + d.text.length ≤ b.length := by
  rcases List.append_eq_append_iff.1 (hc.1.symm.trans hd.1) with ⟨u, rfl, -⟩ | ⟨u, rfl, -⟩
  · rcases hc.eq_or_le hd with ⟨rfl, rfl, rfl⟩ | hle
    · exact .inl ⟨(List.append_nil b).symm, rfl, rfl⟩
    · exact .inr (.inl (by rw [List.length_append]; omega))
  · rcases hd.eq_or_le hc with ⟨rfl, rfl, rfl⟩ | hle
    · exact .inl ⟨List.append_nil b', rfl, rfl⟩
    · exact .inr (.inr (by rw [List.length_append]; omega))

end BareCall

/-! ## A text as a sequence of segments -/

open BareCall

/-- a bare call, or a character outside of all of them -/
inductive Segment where
  | other (x : Char)
  | call (c : BareCall)

namespace Segment

def text : Segment → Text
  | .other x => [x]
  | .call c => c.text

/-- every call renamed, and the other characters as they are -/
def renamed (tables : Tables) : Segment → Text
  | .other x => [x]
  | .call c => c.renamed tables

end Segment

/-- the segments of a text that comes after `before`: their calls are just the calls that stand in it -/
structure SegmentsOf (before t : Text) (segments : List Segment) : Prop where
  flatMap_text : segments.flatMap Segment.text = t
  stands_iff : ∀ b c a, (t = b ++ (c.text ++ a) ∧ CanFollow (before ++ b)) ↔
    ∃ earlier later, segments = earlier ++ .call c :: later ∧ b = earlier.flatMap Segment.text ∧
      a = later.flatMap Segment.text

namespace SegmentsOf

variable {before t : Text} {segments : List Segment}

theorem nil : SegmentsOf before [] [] := by
  refine ⟨rfl, fun b c a => ⟨?_, ?_⟩⟩
  · rintro ⟨hcut, -⟩
    have hempty := (List.append_eq_nil_iff.1 hcut.symm).2
    exact absurd (List.append_eq_nil_iff.1 hempty).1 c.text_ne
  · rintro ⟨earlier, later, hsplit, -⟩
    cases earlier <;> cases hsplit

/-- a character at which no call begins -/
theorem other {x : Char} (hno : ∀ (c : BareCall) a, x :: t = c.text ++ a → ¬ CanFollow before)
    (h : SegmentsOf (before ++ [x]) t segments) : SegmentsOf before (x :: t) (.other x :: segments) := by
  refine ⟨by rw [List.flatMap_cons, h.flatMap_text]; rfl, fun b c a => ⟨?_, ?_⟩⟩
  · rintro ⟨hcut, hfollow⟩
    cases b with
    | nil => exact absurd (by simpa using hfollow) (hno c a hcut)
    | cons y b =>
      obtain ⟨rfl, hrest⟩ := List.cons.inj hcut
      obtain ⟨earlier, later, rfl, rfl, rfl⟩ := (h.stands_iff b c a).1 ⟨hrest, by simpa using hfollow⟩
      exact ⟨.other x :: earlier, later, rfl, rfl, rfl⟩
  · rintro ⟨earlier, later, hsplit, rfl, rfl⟩
    cases earlier with
    | nil => cases hsplit
    | cons s earlier =>
      obtain ⟨rfl, hrest⟩ := List.cons.inj hsplit
      obtain ⟨hcut, hfollow⟩ := (h.stands_iff _ c _).2 ⟨earlier, later, hrest, rfl, rfl⟩
      exact ⟨congrArg (x :: ·) hcut, by simpa [Segment.text] using hfollow⟩

/-- a call: no other call begins in it -/
theorem call {c : BareCall} (hfollow : CanFollow before) (h : SegmentsOf (before ++ c.text) t segments) :
    SegmentsOf before (c.text ++ t) (.call c :: segments) := by
  refine ⟨by rw [List.flatMap_cons, h.flatMap_text]; rfl, fun b d a => ⟨?_, ?_⟩⟩
  · rintro ⟨hcut, hfollow⟩
    by_cases hb : b = []
    · subst hb
      obtain ⟨rfl, rfl⟩ := eq_of_text_append hcut
      exact ⟨[], segments, rfl, rfl, h.flatMap_text.symm⟩
    · have hle := length_le_of_inside hcut hb hfollow.of_append
      obtain ⟨b, rfl⟩ := List.prefix_of_prefix_length_le (List.prefix_append c.text t) ⟨_, hcut.symm⟩ hle
      rw [List.append_assoc] at hcut
      obtain ⟨earlier, later, rfl, rfl, rfl⟩ :=
        (h.stands_iff b d a).1 ⟨List.append_cancel_left hcut, by rwa [List.append_assoc]⟩
      exact ⟨.call c :: earlier, later, rfl, rfl, rfl⟩
  · rintro ⟨earlier, later, hsplit, rfl, rfl⟩
    cases earlier with
    | nil =>
      obtain ⟨hcall, rfl⟩ := List.cons.inj hsplit
      obtain rfl := Segment.call.inj hcall
      exact ⟨by rw [h.flatMap_text]; rfl, by simpa using hfollow⟩
    | cons s earlier =>
      obtain ⟨rfl, hrest⟩ := List.cons.inj hsplit
      obtain ⟨hcut, hfollow⟩ := (h.stands_iff _ d _).2 ⟨earlier, later, hrest, rfl, rfl⟩
      refine ⟨?_, by simpa [Segment.text] using hfollow⟩
      rw [hcut, List.flatMap_cons, Segment.text, List.append_assoc]

end SegmentsOf

/-! ## Calls and matches -/

open Pattern

/-- a place before a call that can begin there -/
theorem canFollow_reverse {before : Text} :
    CanFollow before.reverse ↔ before.head?.any isWordChar = false ∧ before.head? ≠ some '.' := by
  rw [CanFollow, List.getLast?_reverse]
  cases before with
  | nil => simp
  | cons x before => simp

theorem contains_noParenthesis (c : Char) :
    (⟨['(', ')'].map .single, true⟩ : CharSet).contains .exact c = isInner c := by
  simp [CharSet.contains, CharSet.covers, SetItem.contains, isInner, bne]

/-- the pattern finds a call where one can begin -/
theorem matchAt_text {before after : Text} (c : BareCall) (h : CanFollow before.reverse) :
    matchAt Edit.innerCall ⟨before, c.text ++ after⟩ =
      some ⟨⟨before, c.text ++ after⟩, ⟨c.text.reverse ++ before, after⟩, [(2, c.arguments), (1, c.name)]⟩ := by
  obtain ⟨hword, hdot⟩ := canFollow_reverse.1 h
  have hname : (c.text ++ after).head?.any isWordChar = true := by
    obtain ⟨x, name, hname⟩ := List.exists_cons_of_ne_nil c.name_ne
    rw [text, hname]
    exact c.name_word x (by rw [hname]; exact List.mem_cons_self)
  have htext : c.text ++ after = c.name ++ (c.space ++ '(' :: (c.arguments ++ ')' :: after)) := by simp [text]
  have hinner : ∀ x ∈ c.arguments, (⟨['(', ')'].map .single, true⟩ : CharSet).contains .exact x = true := by
    simpa only [contains_noParenthesis] using c.arguments_inner
  have hrun : run Edit.innerCall some ⟨⟨before, c.text ++ after⟩, []⟩ =
      some ⟨⟨c.text.reverse ++ before, after⟩, [(2, c.arguments), (1, c.name)]⟩ := by
    rw [Edit.innerCall, run_ofList_cons, run_notBehind_char, if_neg hdot, run_ofList_cons, run_wordBoundary,
      if_pos (by rw [hword, hname]; rfl), htext, run_ofList_cons, run_group]
    refine run_plus_eq_some c.name_ne (by simpa using c.name_word) ?_ ?_
    · simpa only [CharSet.contains_word] using c.isWordChar_of_head?_space _
    rw [run_ofList_cons]
    refine run_star_eq_some (by simpa using c.space_blank) (by rintro _ ⟨⟩; decide) ?_
    rw [run_ofList_cons, run_char_cons, run_ofList_cons, run_group]
    refine run_plus_eq_some c.arguments_ne hinner (by rintro _ ⟨⟩; decide) ?_
    show run (char ')') some _ = _
    rw [run_char_cons]
    simp only [Pattern.Place.upTo_append]
    simp [text]
  rw [matchAt, hrun]
  rfl

theorem exists_text_of_matchAt {place : Pattern.Place} {h : Hit} (hmatch : matchAt Edit.innerCall place = some h) :
    ∃ (c : BareCall) (after : Text), place.after = c.text ++ after ∧ CanFollow place.before.reverse := by
  have hsome := isSome_of_matchAt hmatch
  rw [Edit.innerCall, run_ofList_cons, run_notBehind_char] at hsome
  split at hsome
  · cases hsome
  rename_i hdot
  rw [run_ofList_cons, run_wordBoundary] at hsome
  split at hsome
  · rename_i hboundary
    simp only [run_ofList_cons, run_group, wordChar, blank, noneOf, isSome_plus_iff, isSome_star_iff, isSome_char_iff,
      CharSet.contains_word, CharSet.contains_blank, contains_noParenthesis] at hsome
    obtain ⟨name, _, hname, hne, hword, space, _, rfl, hblank, _, rfl, arguments, _, rfl, hargs, hinner, after, rfl, -⟩ :=
      hsome
    obtain ⟨x, name', rfl⟩ := List.exists_cons_of_ne_nil hne
    refine ⟨⟨_, space, arguments, hne, hword, hblank, hargs, hinner⟩, after, by simp [hname, text], ?_⟩
    rw [canFollow_reverse]
    refine ⟨?_, hdot⟩
    rw [hname] at hboundary
    simpa [hword x List.mem_cons_self] using hboundary
  · cases hsome

/-- what is put in the place of a match -/
def callReplacement (tables : Tables) (h : Hit) : Text :=
  (Edit.renamedCall? tables (h.group 1) (h.group 2)).getD h.text

theorem BareCall.renamed_eq (tables : Tables) (c : BareCall) :
    c.renamed tables = (Edit.renamedCall? tables c.name c.arguments).getD c.text := by
  have hsimple : Edit.isSimpleReceiver c.arguments = c.arguments.all (fun x => isWordChar x || x == '.') := by
    simp [Edit.isSimpleReceiver, c.arguments_ne]
  rw [renamed, Edit.renamedCall?, Edit.receiver]
  simp only [Tables.lookup, Tables.table]
  cases tables.functionsToMethods.get? c.name with
  | some method =>
    rw [hsimple]
    by_cases h : c.arguments.all (fun x => isWordChar x || x == '.') = true
    · simp only [if_pos h]
      simp
    · simp only [if_neg h]
      simp
  | none =>
    cases tables.functionsToFunctions.get? c.name with
    | some function => simp
    | none => rfl

/-- what the pattern finds at a place is a call that can begin there -/
theorem exists_call_of_matchAt {before after : Text} {h : Hit}
    (hmatch : matchAt Edit.innerCall ⟨before, after⟩ = some h) :
    ∃ (c : BareCall) (rest : Text), after = c.text ++ rest ∧ CanFollow before.reverse ∧
      h = ⟨⟨before, c.text ++ rest⟩, ⟨c.text.reverse ++ before, rest⟩, [(2, c.arguments), (1, c.name)]⟩ := by
  obtain ⟨c, rest, rfl, hfollow⟩ := exists_text_of_matchAt hmatch
  rw [matchAt_text c hfollow] at hmatch
  exact ⟨c, rest, rfl, hfollow, (Option.some.inj hmatch).symm⟩

/-- the segments are what the pattern cuts the text into -/
theorem exists_segments_of_cuts {tables : Tables} {place : Pattern.Place} {ps : List Piece}
    (hcuts : Cuts Edit.innerCall place ps) :
    ∃ segments, SegmentsOf place.before.reverse place.after segments ∧
      ps.flatMap (Piece.replaced (callReplacement tables)) = segments.flatMap (Segment.renamed tables) := by
  induction hcuts with
  | nil => exact ⟨[], .nil, rfl⟩
  | @kept before x rest ps hnone _ ih =>
    obtain ⟨segments, hsegments, hreplaced⟩ := ih
    rw [List.reverse_cons] at hsegments
    refine ⟨.other x :: segments, .other ?_ hsegments, ?_⟩
    · intro c a hcut hfollow
      rw [hcut, matchAt_text c hfollow] at hnone
      cases hnone
    · rw [List.flatMap_cons, List.flatMap_cons, hreplaced]
      rfl
  | @hit place h ps hmatch _ ih =>
    obtain ⟨segments, hsegments, hreplaced⟩ := ih
    obtain ⟨before, after⟩ := place
    obtain ⟨c, rest, rfl, hfollow, rfl⟩ := exists_call_of_matchAt hmatch
    refine ⟨.call c :: segments, .call hfollow (by simpa using hsegments), ?_⟩
    have hpiece : callReplacement tables
        ⟨⟨before, c.text ++ rest⟩, ⟨c.text.reverse ++ before, rest⟩, [(2, c.arguments), (1, c.name)]⟩ =
          c.renamed tables := by
      rw [callReplacement, c.renamed_eq, Hit.text, Pattern.Place.upTo_append]
      rfl
    rw [List.flatMap_cons, List.flatMap_cons, hreplaced, Segment.renamed, Piece.replaced, hpiece]

/-- a text has segments, and renaming renames the calls among them -/
theorem exists_segments (tables : Tables) (t : Text) :
    ∃ segments, SegmentsOf [] t segments ∧ Edit.replaceCalls tables t = segments.flatMap (Segment.renamed tables) := by
  have hcuts : Cuts Edit.innerCall (.start t) (pieces Edit.innerCall t) := by
    refine cuts_pieces fun q h _ hmatch => ?_
    obtain ⟨c, rest, -, -, rfl⟩ := exists_call_of_matchAt hmatch
    have hlength := List.length_pos_iff.2 c.text_ne
    simp only [Hit.length, Pattern.Place.offset, List.length_append, List.length_reverse]
    omega
  exact exists_segments_of_cuts hcuts

/-- **Renaming calls.** The calls of a text never overlap, so the text is a sequence of segments: its calls, each with
what stands before and after it, and the characters outside of them. Renaming replaces every call by itself, by what the
tables say of its name, and leaves the other characters; nothing that was inserted is looked at again. -/
theorem replaceCalls_renames_each (tables : Tables) (t : Text) :
    (∀ b c a b' d a', Stands t b c a → Stands t b' d a' →
      (b = b' ∧ c = d ∧ a = a') ∨ b.length + c.text.length ≤ b'.length ∨ b'.length + d.text.length ≤ b.length) ∧
    ∃ segments : List Segment, segments.flatMap Segment.text = t ∧
      (∀ b c a, Stands t b c a ↔ ∃ earlier later, segments = earlier ++ .call c :: later ∧
        b = earlier.flatMap Segment.text ∧ a = later.flatMap Segment.text) ∧
      Edit.replaceCalls tables t = segments.flatMap (Segment.renamed tables) := by
  refine ⟨fun b c a b' d a' hc hd => hc.disjoint hd, ?_⟩
  obtain ⟨segments, hsegments, hrenamed⟩ := exists_segments tables t
  exact ⟨segments, hsegments.flatMap_text, hsegments.stands_iff, hrenamed⟩

/-- the inner call of two is renamed, a method and a name that is not in the tables are left alone -/
example : Edit.replaceCalls .standard "print(len (items), a.len(x), open(f))" =
    "print(items.length, a.len(x), File.open(f))".toList := by
  decide +kernel

end Linewise
