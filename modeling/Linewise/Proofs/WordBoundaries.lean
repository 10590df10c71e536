/-
Reserved words between word boundaries.

A key is put between two word boundaries as text, so the boundaries belong to what stands next to them when the whole is
read: the first to the first alternative, the second to the last one (`branches_of_read`). An occurrence that the first
alternative matched begins at a word boundary, one that the last alternative matched ends at one, and a key without a
bar of its own has one alternative, which is both. `inside_of_a_word_replaced` is a key of two alternatives, neither of
which is a whole word.
-/
import Linewise.Edit.Steps
import Linewise.Proofs.Pattern.Consumption
import Linewise.Proofs.Pattern.Occurrences
import Linewise.Proofs.Pattern.Sequences
import Mathlib.Data.List.Basic

namespace Linewise

namespace Pattern

/-! ## The first part of a sequence -/

/-- a step that gives something in `P` whenever it gives something -/
def Gives {α : Type} (P : α → Prop) (m : ReadM α) : Prop := ∀ r a s, m r = .ok (a, s) → P a

namespace Gives

variable {α β : Type} {P : α → Prop} {m m' : ReadM α}

theorem pure {a : α} (h : P a) : Gives P (Pure.pure a : ReadM α) := by
  rintro r b s ⟨⟩
  exact h

theorem after {n : ReadM β} {f : β → ReadM α} (hf : ∀ b, Gives P (f b)) : Gives P (n >>= f) := by
  intro r a s h
  obtain ⟨b, r', -, h⟩ := bind_eq_ok.1 h
  exact hf b r' a s h

theorem failAt {cause : Cause} {offset : Nat} : Gives P (failAt cause offset : ReadM α) := by
  rintro r a s ⟨⟩

theorem ite {c : Prop} [Decidable c] (h : Gives P m) (h' : Gives P m') : Gives P (if c then m else m') := by
  split
  · exact h
  · exact h'

end Gives

variable {fuel start : Nat} {b : Bool} {c : Char} {items items' : List Item} {i : Item} {r s : Reading}
  {p : Pattern} {w : Measure}

/-- an anchor that begins a sequence is not repeated, and stays where it is -/
theorem gives_first_quantify (hi : i.kind = .anchor) (hitems : items.getLast? = some i) (least : Nat)
    (most : Option Nat) : Gives (fun items' => items'.getLast? = some i) (quantify start least most items) := by
  cases items with
  | nil => cases hitems
  | cons item before =>
    have hlast (item' : Item) (hkind : item.kind ≠ .anchor) : (item' :: before).getLast? = some i := by
      cases before with
      | nil =>
        obtain rfl := Option.some.inj hitems
        exact absurd hi hkind
      | cons j before => simpa [List.getLast?_cons_cons] using hitems
    rw [quantify]
    split
    · exact .failAt
    · exact .failAt
    · rename_i hkind
      have hother : item.kind ≠ .anchor := by
        rw [hkind]
        exact ItemKind.noConfusion
      exact .after fun _ => .after fun _ => .ite (.pure (hlast _ hother))
        (.after fun _ => .ite (.pure (hlast _ hother)) (.pure (hlast _ hother)))

theorem gives_first_readPart (hi : i.kind = .anchor) (hitems : items.getLast? = some i) :
    Gives (fun items' => items'.getLast? = some i) (readPart fuel start b c items) := by
  cases fuel with
  | zero => exact .pure hitems
  | succ fuel =>
    have hcons (item : Item) : (item :: items).getLast? = some i := by
      rw [List.getLast?_cons, hitems, Option.getD_some]
    have hquantify (least : Nat) (most : Option Nat) :
        Gives (fun items' => items'.getLast? = some i) (quantify start least most items) :=
      gives_first_quantify hi hitems least most
    have hcode : Gives (fun items' => items'.getLast? = some i) (do return (← codePart c.toNat) :: items) :=
      .after fun _ => .pure (hcons _)
    rw [readPart]
    refine .after fun r => .ite (.pure hitems) (.ite (.after fun _ => .after fun _ => .pure hitems) (.ite ?_ (.ite ?_
      (.ite (hquantify _ _) (.ite (hquantify _ _) (.ite (hquantify _ _) (.ite ?_ (.ite (.pure (hcons _))
        (.ite (.pure (hcons _)) (.ite (.pure (hcons _)) hcode))))))))))
    · refine .after fun opening => ?_
      split
      · exact .pure hitems
      · exact .pure (hcons _)
      · exact .after fun _ => .pure (hcons _)
    · exact .after fun _ => .after fun _ => .after fun _ => .after fun _ => .pure (hcons _)
    · refine .after fun bounds => ?_
      split
      · exact hquantify _ _
      · exact hcode

/-- a sequence that begins with an anchor has it as its first part -/
theorem gives_first_readSequence (hi : i.kind = .anchor) (hitems : items.getLast? = some i) :
    Gives (fun x => ∃ ps, x.1 = .ofList (i.pattern :: ps)) (readSequence fuel b items) := by
  have hdone {items : List Item} (hitems : items.getLast? = some i) :
      ∃ ps, (sequenceOf items).1 = .ofList (i.pattern :: ps) := by
    obtain ⟨before, rfl⟩ := List.getLast?_eq_some_iff.1 hitems
    exact ⟨before.reverse.map (·.pattern), by simp [sequenceOf]⟩
  induction fuel generalizing items with
  | zero => exact .pure (hdone hitems)
  | succ fuel ih =>
    rw [readSequence]
    refine .after fun _ => .after fun _ => .ite (.pure (hdone hitems)) (.after fun t => ?_)
    split
    · exact .pure (hdone hitems)
    · refine .after fun item => ih ?_
      rw [List.getLast?_cons, hitems, Option.getD_some]
    · intro r x s h
      obtain ⟨items', r', hpart, h⟩ := bind_eq_ok.1 h
      exact ih (gives_first_readPart hi hitems _ _ _ hpart) _ _ _ h

/-! ## The last part of a sequence -/

/-- a step that does not end in an escape does not take one that comes last -/
theorem Reading.To.escape_last {first : Bool} {used left : List Token} {d : Char} (h : r.To first used s)
    (hused : Whole used) (hrest : r.rest = left ++ [.escape d]) : ∃ left', s.rest = left' ++ [.escape d] := by
  have heq : left ++ [.escape d] = used ++ s.rest := hrest.symm.trans h.rest_eq
  rcases List.eq_nil_or_concat s.rest with hnil | ⟨left', t, hconcat⟩
  · rw [hnil, List.append_nil] at heq
    exact absurd (by rw [← heq, List.getLast?_concat]) (hused d)
  · rw [hconcat, List.concat_eq_append, ← List.append_assoc] at heq
    obtain ⟨-, ht⟩ := List.append_inj' heq rfl
    obtain rfl := List.singleton_inj.1 ht
    exact ⟨left', by rw [hconcat, List.concat_eq_append]⟩

/-- the second word boundary is still to be read, outside all groups -/
structure BoundaryAhead (r : Reading) : Prop where
  rest_eq : ∃ left, r.rest = left ++ [.escape 'b']
  dangling_eq : r.dangling = false
  modes_eq : r.modes = {}

theorem BoundaryAhead.step {used : List Token} (h : BoundaryAhead r) (hused : Whole used) (hto : r.To false used s) :
    BoundaryAhead s := by
  obtain ⟨⟨left, hrest⟩, hdangling, hmodes⟩ := h
  exact ⟨hto.escape_last hused hrest, hto.dangling_eq.trans hdangling, (hto.modes_eq rfl).trans hmodes⟩

theorem BoundaryAhead.rest_ne_nil (h : BoundaryAhead r) : r.rest ≠ [] := by
  obtain ⟨left, hrest⟩ := h.rest_eq
  rw [hrest]
  exact List.append_ne_nil_of_right_ne_nil left (List.cons_ne_nil _ _)

/-- a sequence that ends at the end of the text ends with the second word boundary -/
theorem last_of_readSequence (h : readSequence fuel b items r = .ok ((p, w), s)) (hahead : BoundaryAhead r)
    (hfirst : b = false ∨ ∃ i, i.kind = .anchor ∧ items.getLast? = some i) :
    BoundaryAhead s ∨ (s.rest = [] ∧ ∃ ps, p = .ofList (ps ++ [wordBoundary])) := by
  induction fuel generalizing items r with
  | zero =>
    cases h
    exact .inl hahead
  | succ fuel ih =>
    obtain ⟨⟨left, hrest⟩, hdangling, hmodes⟩ := hahead
    cases left with
    | nil =>
      rw [readSequence_boundary hrest hdangling hmodes, readSequence_end rfl] at h
      cases h
      exact .inr ⟨rfl, items.reverse.map (·.pattern), by rw [List.reverse_cons, List.map_append]; rfl⟩
    | cons t left =>
      obtain ⟨_, _, hhere, h⟩ := bind_eq_ok.1 h
      cases hhere
      obtain ⟨_, _, hpeek, h⟩ := bind_eq_ok.1 h
      cases hpeek
      obtain ⟨-, h⟩ | ⟨-, h⟩ := cases_of_ite h
      · cases h
        exact .inl ⟨⟨_, hrest⟩, hdangling, hmodes⟩
      obtain ⟨u, r', htake, h⟩ := bind_eq_ok.1 h
      obtain ⟨hnil, -⟩ | ⟨u, rfl, hto⟩ := to_of_take htake
      · rw [hrest] at hnil
        cases hnil
      obtain ⟨rfl, hleft⟩ := List.cons.inj (hrest.symm.trans hto.rest_eq)
      have hahead : BoundaryAhead r' :=
        ⟨⟨left, hleft.symm⟩, hto.dangling_eq.trans hdangling, (hto.modes_eq rfl).trans hmodes⟩
      cases t with
      | escape d =>
        obtain ⟨item, r'', hescape, h⟩ := bind_eq_ok.1 h
        obtain ⟨used, hused, hto'⟩ := takesWhole_readEscape d r' item r'' hescape
        refine ih h (hahead.step hused hto') (hfirst.imp_right fun ⟨i, hi, hitems⟩ => ⟨i, hi, ?_⟩)
        rw [List.getLast?_cons, hitems, Option.getD_some]
      | plain c =>
        obtain ⟨items', r'', hpart, h⟩ := bind_eq_ok.1 h
        obtain ⟨used, hused, hto'⟩ := (takes_of_reading fuel).2.2.1 hpart
        have hlate : (b && items.isEmpty) = false := by
          obtain rfl | ⟨i, -, hitems⟩ := hfirst
          · rfl
          · cases items with
            | nil => cases hitems
            | cons item items => exact Bool.and_false b
        rw [hlate] at hto'
        refine ih h (hahead.step (hused (by rw [hahead.modes_eq])) hto') (hfirst.imp_right fun ⟨i, hi, hitems⟩ => ⟨i, hi, ?_⟩)
        exact gives_first_readPart hi hitems _ _ _ hpart

/-! ## Alternatives -/

theorem tokens_wrappedKey {key : Text} (h : (tokens key).2 = false) :
    tokens (wrappedKey key) = (.escape 'b' :: ((tokens key).1 ++ [.escape 'b']), false) := by
  rw [wrappedKey, List.append_assoc, tokens_append (by rfl), tokens_append h]
  rfl

/-- the alternatives of a choice, and a pattern that is no choice as its only alternative -/
def branches : Pattern → List Pattern
  | .alt p q => p :: branches q
  | p => [p]

theorem branches_eq_singleton_first (ps : List Pattern) :
    branches (.ofList (wordBoundary :: ps)) = [.ofList (wordBoundary :: ps)] := by
  cases ps <;> rfl

theorem branches_eq_singleton_last (ps : List Pattern) :
    branches (.ofList (ps ++ [wordBoundary])) = [.ofList (ps ++ [wordBoundary])] := by
  match ps with
  | [] => rfl
  | [p] => rfl
  | p :: q :: ps => rfl

theorem branches_ne_nil (p : Pattern) : p.branches ≠ [] := by
  cases p <;> exact List.cons_ne_nil _ _

theorem getLast?_branches_alt (p q : Pattern) : (branches (.alt p q)).getLast? = (branches q).getLast? := by
  rw [branches, List.getLast?_cons_of_ne_nil (branches_ne_nil q)]

/-- what follows a sequence outside all groups: a bar and more alternatives, or the end -/
theorem last_of_sequence {first : Pattern} {v : Measure} (hsequence : BoundaryAhead r ∨
      (r.rest = [] ∧ ∃ ps, first = .ofList (ps ++ [wordBoundary])))
    (halternatives : ∀ {r q w}, readAlternatives fuel false r = .ok ((q, w), s) → BoundaryAhead r →
      ∃ ps, q.branches.getLast? = some (.ofList (ps ++ [wordBoundary])))
    (h : (do
        if ← takeIf '|' then
          let (q, w) ← readAlternatives fuel false
          return (Pattern.alt first q, v.either w)
        return (first, v)) r = .ok ((p, w), s)) (hend : s.rest = []) :
    (p = first ∨ (∃ q, p = .alt first q) ∧ .plain '|' ∈ r.rest) ∧
      ∃ ps, p.branches.getLast? = some (.ofList (ps ++ [wordBoundary])) := by
  obtain ⟨bar, r', hbar, hmore⟩ := bind_eq_ok.1 h
  obtain ⟨rfl, hto⟩ | ⟨rfl, rfl, -⟩ := takeIf_eq_ok hbar
  · obtain ⟨⟨q, w'⟩, r'', hq, hpure⟩ := bind_eq_ok.1 hmore
    cases hpure
    rcases hsequence with hahead | ⟨hnil, -⟩
    · obtain ⟨ps, hps⟩ := halternatives hq (hahead.step Whole.plain hto)
      have hmem : .plain '|' ∈ r.rest := by
        rw [hto.rest_eq]
        exact List.mem_cons_self
      exact ⟨.inr ⟨⟨q, rfl⟩, hmem⟩, ps, by rw [getLast?_branches_alt, hps]⟩
    · rw [hto.rest_eq] at hnil
      cases hnil
  · cases hmore
    rcases hsequence with hahead | ⟨-, ps, rfl⟩
    · cases hahead.rest_ne_nil hend
    · exact ⟨.inl rfl, ps, by rw [branches_eq_singleton_last, List.getLast?_singleton]⟩

/-- alternatives that end at the end of the text end with the second word boundary -/
theorem last_of_readAlternatives (h : readAlternatives fuel false r = .ok ((p, w), s)) (hahead : BoundaryAhead r)
    (hend : s.rest = []) : ∃ ps, p.branches.getLast? = some (.ofList (ps ++ [wordBoundary])) := by
  induction fuel generalizing r p w with
  | zero =>
    cases h
    cases hahead.rest_ne_nil hend
  | succ fuel ih =>
    obtain ⟨⟨first, v⟩, r', hsequence, h⟩ := bind_eq_ok.1 h
    exact (last_of_sequence (last_of_readSequence hsequence hahead (.inl rfl)) (fun h hahead => ih h hahead) h hend).2

theorem mem_of_plain_mem_tokens {t : Text} (h : .plain c ∈ (tokens t).1) : c ∈ t := by
  fun_induction tokens t with
  | case1 => cases h
  | case2 => cases h
  | case3 d rest ih =>
    rcases List.mem_cons.1 h with heq | h
    · cases heq
    · exact List.mem_cons_of_mem _ (List.mem_cons_of_mem _ (ih h))
  | case4 d rest _ _ ih =>
    rcases List.mem_cons.1 h with heq | h
    · cases heq
      exact List.mem_cons_self
    · exact List.mem_cons_of_mem _ (ih h)

/-- **The boundaries belong to the first and the last alternative** of a key, and a key without a bar has one. -/
theorem branches_of_read {key : Text} (hkey : (tokens key).2 = false) (h : read (wrappedKey key) = .ok p) :
    (∃ ps, p.branches.head? = some (.ofList (wordBoundary :: ps))) ∧
      (∃ ps, p.branches.getLast? = some (.ofList (ps ++ [wordBoundary]))) ∧ ('|' ∉ key → p.branches = [p]) := by
  obtain ⟨-, w, s, h, hend⟩ := alternatives_of_read h
  obtain ⟨⟨first, v⟩, r, hsequence, h⟩ := bind_eq_ok.1 h
  -- the first word boundary is read, and the rest of the sequence begins with it
  have hrest : (reading (wrappedKey key)).rest = .escape 'b' :: ((tokens key).1 ++ [.escape 'b']) := by
    rw [reading, tokens_wrappedKey hkey]
  have hdangling : (reading (wrappedKey key)).dangling = false := by rw [reading, tokens_wrappedKey hkey]
  rw [readSequence_boundary hrest hdangling rfl] at hsequence
  have hahead : BoundaryAhead { reading (wrappedKey key) with
      rest := (tokens key).1 ++ [.escape 'b'], offset := (reading (wrappedKey key)).offset + 2 } :=
    ⟨⟨_, rfl⟩, hdangling, rfl⟩
  obtain ⟨ps, hps⟩ := gives_first_readSequence rfl rfl _ _ _ hsequence
  have hfirst : first = .ofList (wordBoundary :: ps) := hps
  obtain ⟨hp, hlast⟩ := last_of_sequence (last_of_readSequence hsequence hahead (.inr ⟨_, rfl, rfl⟩))
    (fun h hahead => last_of_readAlternatives h hahead hend) h hend
  refine ⟨⟨ps, ?_⟩, hlast, fun hbar => ?_⟩
  · obtain hp | ⟨⟨q, hp⟩, -⟩ := hp
    · rw [hp, hfirst, branches_eq_singleton_first, List.head?_singleton]
    · rw [hp, hfirst, branches, List.head?_cons]
  · obtain hp | ⟨-, hmem⟩ := hp
    · rw [hp, hfirst, branches_eq_singleton_first]
    · obtain ⟨used, -, hto⟩ := (takes_of_reading _).2.1 _ _ _ _ _ hsequence
      have hmem' : .plain '|' ∈ (tokens key).1 ++ [.escape 'b'] := by
        rw [show (tokens key).1 ++ [.escape 'b'] = used ++ r.rest from hto.rest_eq]
        exact List.mem_append_right used hmem
      rcases List.mem_append.1 hmem' with hmem' | hmem'
      · exact absurd (mem_of_plain_mem_tokens hmem') hbar
      · cases List.mem_singleton.1 hmem'

/-! ## Where occurrences begin and end -/

/-- a word character stands on exactly one side of the place -/
def Place.AtWordBoundary (place : Place) : Prop :=
  (place.before.head?.any isWordChar != place.after.head?.any isWordChar) = true

instance (place : Place) : Decidable place.AtWordBoundary := inferInstanceAs (Decidable (_ = true))

theorem run_ofList_append (ps qs : List Pattern) (k : Found → Option Found) (f : Found) :
    run (.ofList (ps ++ qs)) k f = run (.ofList ps) (run (.ofList qs) k) f := by
  induction ps generalizing f with
  | nil => exact (run_empty _ f).symm
  | cons p ps ih =>
    rw [List.cons_append, run_ofList_cons, run_ofList_cons]
    exact congrArg (run p · f) (funext ih)

variable {h : Hit} {ps : List Pattern}

theorem Hit.Matches.begins_at_boundary (hmatches : h.Matches (.ofList (wordBoundary :: ps))) :
    h.begins.AtWordBoundary := by
  obtain ⟨k, -, hrun⟩ := hmatches
  rw [run_ofList_cons, run_wordBoundary] at hrun
  split at hrun
  · assumption
  · cases hrun

theorem Hit.Matches.ends_at_boundary (hmatches : h.Matches (.ofList (ps ++ [wordBoundary]))) :
    h.found.place.AtWordBoundary := by
  obtain ⟨k, hk, hrun⟩ := hmatches
  rw [run_ofList_append] at hrun
  obtain ⟨f, -, -, -, hlast⟩ := acceptedAfter_of_run hrun
  change run wordBoundary k f = _ at hlast
  rw [run_wordBoundary] at hlast
  split at hlast
  · rename_i hboundary
    rwa [hk f _ hlast] at hboundary
  · cases hlast

/-- some alternative matched the occurrence -/
theorem Hit.Matches.branch (hmatches : h.Matches p) : ∃ q ∈ p.branches, h.Matches q := by
  fun_induction branches p with
  | case1 p q ih =>
    obtain ⟨k, hk, hrun⟩ := hmatches
    rw [run_alt] at hrun
    rcases Option.or_eq_some_iff.1 hrun with hrun | ⟨-, hrun⟩
    · exact ⟨p, List.mem_cons_self, k, hk, hrun⟩
    · obtain ⟨q', hmem, hmatches⟩ := ih ⟨k, hk, hrun⟩
      exact ⟨q', List.mem_cons_of_mem p hmem, hmatches⟩
  | case2 p => exact ⟨p, List.mem_singleton_self p, hmatches⟩

end Pattern

/-! ## One reserved word among others -/

theorem reservedPatterns_cons {key value : Text} {later : List (Text × Text)} {patterns : List (Pattern × Text)}
    (h : reservedPatterns ((key, value) :: later) = .ok patterns) :
    ∃ p after, Pattern.read (wrappedKey key) = .ok p ∧ reservedPatterns later = .ok after ∧
      patterns = (p, value) :: after := by
  rw [reservedPatterns] at h
  cases hread : Pattern.read (wrappedKey key) with
  | error fault =>
    rw [hread] at h
    cases h
  | ok p =>
    simp only [hread] at h
    cases hafter : reservedPatterns later with
    | error fault =>
      rw [hafter] at h
      cases h
    | ok after =>
      rw [hafter] at h
      cases h
      exact ⟨p, after, rfl, rfl, rfl⟩

theorem reservedPatterns_append {earlier later : List (Text × Text)} {patterns : List (Pattern × Text)}
    (h : reservedPatterns (earlier ++ later) = .ok patterns) :
    ∃ before after, reservedPatterns earlier = .ok before ∧ reservedPatterns later = .ok after ∧
      patterns = before ++ after := by
  induction earlier generalizing patterns with
  | nil => exact ⟨[], patterns, rfl, h, rfl⟩
  | cons e earlier ih =>
    obtain ⟨p, rest, hp, hrest, rfl⟩ := reservedPatterns_cons h
    obtain ⟨before, after, hbefore, hafter, rfl⟩ := ih hrest
    exact ⟨(p, e.2) :: before, after, by simp only [reservedPatterns, hp, hbefore], hafter, rfl⟩

namespace Edit

open Pattern

/-- **Reserved words and word boundaries.** In the text that the earlier words leave, an occurrence of a word was matched
by one of its alternatives. It begins at a word boundary if this is the first one and ends at a word boundary if it is
the last one; a word without a bar has no other. -/
theorem reserved_word_boundaries {tables : Tables} {earlier later : List (Text × Text)} {key value : Text}
    (hentries : tables.reservedWords.entries = earlier ++ (key, value) :: later)
    (hkey : (Pattern.read key).isOk = true) (hcompile : (reservedPatterns tables.reservedWords.entries).isOk = true)
    (t : Text) :
    ∃ before p after, reservedPatterns earlier = .ok before ∧ Pattern.read (wrappedKey key) = .ok p ∧
      reservedPatterns later = .ok after ∧
      Step.apply tables .reservedWords t =
        .ok (replaceReserved after (p.replace (fun _ => value) (replaceReserved before t))) ∧
      ('|' ∉ key → p.branches = [p]) ∧
      ∀ h ∈ p.hits (replaceReserved before t), ∃ q ∈ p.branches, h.Matches q ∧
        (p.branches.head? = some q → h.begins.AtWordBoundary) ∧
        (p.branches.getLast? = some q → h.found.place.AtWordBoundary) := by
  obtain ⟨patterns, hpatterns⟩ := exists_ok_of_isOk hcompile
  obtain ⟨whole, hwhole⟩ := exists_ok_of_isOk hkey
  obtain ⟨before, rest, hbefore, hrest, rfl⟩ := reservedPatterns_append (hentries ▸ hpatterns)
  obtain ⟨p, after, hp, hafter, rfl⟩ := reservedPatterns_cons hrest
  obtain ⟨⟨first, hfirst⟩, ⟨last, hlast⟩, hbar⟩ := branches_of_read (dangling_of_read hwhole) hp
  refine ⟨before, p, after, hbefore, hp, hafter, ?_, hbar, fun h hmem => ?_⟩
  · rw [Step.apply, hpatterns]
    simp [replaceReserved, Except.map]
  · obtain ⟨q, hq, hmatches⟩ := (matches_of_mem_hits hmem).2.branch
    refine ⟨q, hq, hmatches, fun hhead => ?_, fun hend => ?_⟩
    · obtain rfl := Option.some.inj (hfirst.symm.trans hhead)
      exact hmatches.begins_at_boundary
    · obtain rfl := Option.some.inj (hlast.symm.trans hend)
      exact hmatches.ends_at_boundary

/-- a word with blanks before it begins where they do -/
theorem blanks_in_word_at_boundaries :
    let p : Pattern := .ofList ([wordBoundary, star blank] ++ chars "is" ++ [wordBoundary])
    (p.hits "x is nil").map Hit.text = [" is".toList] ∧
      ∀ h ∈ p.hits "x is nil", h.begins.AtWordBoundary ∧ h.found.place.AtWordBoundary := by
  intro p
  let tables : Tables := { reservedWords := .ofList [("None", "nil"), ("\\s*is", ".equal?")] }
  obtain ⟨before, q, after, hbefore, hq, -, -, hbar, hits⟩ :=
    @reserved_word_boundaries tables [("None", "nil")] [] "\\s*is" ".equal?" (by decide +kernel) (by decide +kernel)
      (by decide +kernel) "x is None"
  obtain rfl := Except.ok.inj ((show Pattern.read (wrappedKey "\\s*is") = .ok p by decide +kernel).symm.trans hq)
  have hleft : (reservedPatterns [("None", "nil")]).map (replaceReserved · "x is None") = .ok "x is nil".toList := by
    decide +kernel
  rw [hbefore] at hleft
  rw [show replaceReserved before "x is None" = _ from Except.ok.inj hleft] at hits
  refine ⟨by decide +kernel, fun h hmem => ?_⟩
  obtain ⟨q, hq, -, hbegins, hends⟩ := hits h hmem
  rw [hbar (by decide)] at hq hbegins hends
  obtain rfl := List.mem_singleton.1 hq
  exact ⟨hbegins rfl, hends rfl⟩

/-- a word of two alternatives is replaced at the start of a longer one -/
theorem inside_of_a_word_replaced :
    let tables : Tables := { reservedWords := .ofList [("a|b", "X")] }
    let p : Pattern := .alt (.cat wordBoundary (char 'a')) (.cat (char 'b') wordBoundary)
    (Pattern.read "a|b").isOk = true ∧ reservedPatterns tables.reservedWords.entries = .ok [(p, "X".toList)] ∧
      (p.hits "abc").map (fun h => (h.text, decide h.begins.AtWordBoundary, decide h.found.place.AtWordBoundary)) =
        [("a".toList, true, false)] ∧
      Step.apply tables .reservedWords "abc" = .ok "Xbc".toList := by
  decide +kernel

end Edit

end Linewise
