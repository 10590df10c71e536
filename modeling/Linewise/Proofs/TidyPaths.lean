/-
A path and its tidy spelling lead to the same thing.

`Path.tidy` drops components that stay where they are. That is safe on the way to something: a walk only goes on from
directories, and there such a component changes nothing (`walk_filter`). The other way round it is not: a slash after the
name of a file leads nowhere, and the name alone does. `find_tidy`: what a path leads to, its tidy spelling leads to.
-/
import Linewise.Proofs.FileTrees
import Linewise.Proofs.Separated

namespace Linewise

namespace Path

/-! ## Tidy paths -/

/-- the component does not stay where it is -/
def leadsOn (name : Text) : Bool := !name.isEmpty && name != here

theorem eq_or_eq_of_not_leadsOn {name : Text} (h : leadsOn name = false) : name = [] ∨ name = here := by
  rw [leadsOn, Bool.and_eq_false_iff] at h
  simpa using h

theorem join_components (p : Text) : Text.join ['/'] (components p) = p := by
  rw [components, Text.splitOn_eq]
  exact List.intercalate_splitOn '/'

theorem isAbsolute_of_ne {c : Char} (h : c ≠ '/') (rest : Text) : isAbsolute (c :: rest) = false := by
  show ('/' == c && List.isPrefixOf [] rest) = false
  rw [beq_eq_false_iff_ne.2 (Ne.symm h), Bool.false_and]

theorem components_slash (p : Text) : components ('/' :: p) = [] :: components p := by
  rw [components, Text.splitOn, if_pos rfl, components]

theorem names_slash (p : Text) : names ('/' :: p) = names p := by
  rw [names, components_slash]
  rfl

theorem nil_notMem_names (p : Text) : [] ∉ names p := by
  intro h
  cases List.of_mem_filter h

/-- names that are put together come apart again -/
theorem components_join_names {p : Text} (h : names p ≠ []) : components (Text.join ['/'] (names p)) = names p := by
  rw [components, Text.splitOn_eq]
  exact List.splitOn_intercalate '/' (fun name hname => Text.notMem_of_mem_splitOn (List.mem_of_mem_filter hname)) h

/-- no names at all still make one component -/
theorem exists_components_join (p : Text) :
    ∃ idle, components (Text.join ['/'] (names p)) = idle ++ names p ∧ ∀ name ∈ idle, name = [] := by
  by_cases hnone : names p = []
  · exact ⟨[[]], by rw [hnone]; rfl, by simp⟩
  · exact ⟨[], components_join_names hnone, by simp⟩

/-- names that are put together do not start with a slash, and are not nothing -/
theorem join_names_ne {p : Text} (h : names p ≠ []) :
    Text.join ['/'] (names p) ≠ [] ∧ isAbsolute (Text.join ['/'] (names p)) = false := by
  have hcomponents := components_join_names h
  cases hjoin : Text.join ['/'] (names p) with
  | nil =>
    rw [hjoin] at hcomponents
    exact absurd (hcomponents ▸ List.mem_cons_self) (nil_notMem_names p)
  | cons c rest =>
    refine ⟨List.cons_ne_nil c rest, ?_⟩
    by_cases hc : c = '/'
    · rw [hjoin, hc, components_slash] at hcomponents
      exact absurd (hcomponents ▸ List.mem_cons_self) (nil_notMem_names p)
    · exact isAbsolute_of_ne hc rest

/-- the three ways in which a path starts -/
theorem root_cases (p : Text) :
    (root p = [] ∧ isAbsolute p = false) ∨ (root p = ['/'] ∧ ∃ rest, p = '/' :: rest) ∨
      (root p = ['/', '/'] ∧ ∃ rest, p = '/' :: '/' :: rest) := by
  cases p with
  | nil => exact .inl ⟨rfl, rfl⟩
  | cons c rest =>
    by_cases hc : c = '/'
    · refine .inr ?_
      rw [hc, root, List.takeWhile_cons_of_pos rfl]
      cases rest with
      | nil => exact .inl ⟨rfl, [], rfl⟩
      | cons d more =>
        by_cases hd : d = '/'
        · rw [hd, List.takeWhile_cons_of_pos rfl]
          cases more.takeWhile (· == '/') with
          | nil => exact .inr ⟨rfl, more, rfl⟩
          | cons _ _ => exact .inl ⟨by split <;> simp_all, '/' :: more, rfl⟩
        · rw [List.takeWhile_cons_of_neg (by simpa using hd)]
          exact .inl ⟨rfl, d :: more, rfl⟩
    · refine .inl ⟨?_, isAbsolute_of_ne hc rest⟩
      rw [root, List.takeWhile_cons_of_neg (by simpa using hc)]

theorem tidy_eq (p : Text) :
    tidy p = if root p ++ Text.join ['/'] (names p) = [] then here else root p ++ Text.join ['/'] (names p) := by
  rw [tidy]
  cases root p ++ Text.join ['/'] (names p) <;> rfl

/-- a path either has names and no root, or neither, or one of the roots -/
theorem tidy_cases (p : Text) :
    (isAbsolute p = false ∧ names p = [] ∧ tidy p = here) ∨
      (isAbsolute p = false ∧ names p ≠ [] ∧ tidy p = Text.join ['/'] (names p)) ∨
      (∃ rest, p = '/' :: rest ∧ tidy p = '/' :: Text.join ['/'] (names rest)) ∨
      ∃ rest, p = '/' :: '/' :: rest ∧ tidy p = '/' :: '/' :: Text.join ['/'] (names rest) := by
  rcases root_cases p with ⟨hroot, habsolute⟩ | ⟨hroot, rest, rfl⟩ | ⟨hroot, rest, rfl⟩
  · rw [tidy_eq, hroot, List.nil_append]
    by_cases hnone : names p = []
    · exact .inl ⟨habsolute, hnone, by rw [hnone]; rfl⟩
    · exact .inr (.inl ⟨habsolute, hnone, if_neg (join_names_ne hnone).1⟩)
  · refine .inr (.inr (.inl ⟨rest, rfl, ?_⟩))
    rw [tidy_eq, hroot, names_slash]
    rfl
  · refine .inr (.inr (.inr ⟨rest, rfl, ?_⟩))
    rw [tidy_eq, hroot, names_slash, names_slash]
    rfl

theorem tidy_ne_nil (p : Text) : tidy p ≠ [] := by
  rcases tidy_cases p with ⟨-, -, h⟩ | ⟨-, hnames, h⟩ | ⟨rest, -, h⟩ | ⟨rest, -, h⟩ <;> rw [h]
  · decide
  · exact (join_names_ne hnames).1
  · exact List.cons_ne_nil _ _
  · exact List.cons_ne_nil _ _

theorem isAbsolute_tidy (p : Text) : isAbsolute (tidy p) = isAbsolute p := by
  rcases tidy_cases p with ⟨hp, -, h⟩ | ⟨hp, hnames, h⟩ | ⟨rest, rfl, h⟩ | ⟨rest, rfl, h⟩ <;> rw [h]
  · rw [hp]
    rfl
  · rw [hp, (join_names_ne hnames).2]
  · rfl
  · rfl

theorem join_names_sublist (p : Text) : (Text.join ['/'] (names p)).Sublist p := by
  have h := Text.join_filter_sublist ['/'] leadsOn (components p)
  rwa [join_components] at h

/-- a tidy path leaves characters out, except that a path of nothing becomes a dot -/
theorem tidy_sublist (p : Text) : tidy p = here ∨ (tidy p).Sublist p := by
  rcases tidy_cases p with ⟨-, -, h⟩ | ⟨-, -, h⟩ | ⟨rest, rfl, h⟩ | ⟨rest, rfl, h⟩
  · exact .inl h
  · exact .inr (h ▸ join_names_sublist p)
  · exact .inr (h ▸ (join_names_sublist rest).cons_cons '/')
  · exact .inr (h ▸ ((join_names_sublist rest).cons_cons '/').cons_cons '/')

/-- its components are the names, after some empty ones; only the path of nothing has a dot instead -/
theorem components_tidy_cases (p : Text) :
    (isAbsolute p = false ∧ names p = [] ∧ components (tidy p) = [here]) ∨
      ∃ idle, components (tidy p) = idle ++ names p ∧ ∀ name ∈ idle, name = [] := by
  rcases tidy_cases p with ⟨hp, hnone, h⟩ | ⟨-, -, h⟩ | ⟨rest, rfl, h⟩ | ⟨rest, rfl, h⟩ <;> rw [h]
  · exact .inl ⟨hp, hnone, rfl⟩
  · exact .inr (exists_components_join p)
  · obtain ⟨idle, hcomponents, hidle⟩ := exists_components_join rest
    refine .inr ⟨[] :: idle, ?_, List.forall_mem_cons.2 ⟨rfl, hidle⟩⟩
    rw [components_slash, hcomponents, names_slash]
    rfl
  · obtain ⟨idle, hcomponents, hidle⟩ := exists_components_join rest
    refine .inr ⟨[] :: [] :: idle, ?_, List.forall_mem_cons.2 ⟨rfl, List.forall_mem_cons.2 ⟨rfl, hidle⟩⟩⟩
    rw [components_slash, components_slash, hcomponents, names_slash, names_slash]
    rfl

/-- a path without a root that is something, but has no names, starts with a dot -/
theorem exists_components_of_names_nil {p : Text} (habsolute : isAbsolute p = false) (hne : p ≠ [])
    (hnone : names p = []) : ∃ rest, components p = here :: rest := by
  have hjoin := join_components p
  cases hcomponents : components p with
  | nil =>
    rw [hcomponents] at hjoin
    exact absurd hjoin.symm hne
  | cons name rest =>
    have hidle : leadsOn name = false := by
      rw [Bool.eq_false_iff]
      intro hkept
      have hmem : name ∈ names p := List.mem_filter.2 ⟨hcomponents ▸ List.mem_cons_self, hkept⟩
      rw [hnone] at hmem
      cases hmem
    rcases eq_or_eq_of_not_leadsOn hidle with rfl | rfl
    · -- an empty component at the start is a path of nothing, or stands before a slash
      rw [hcomponents] at hjoin
      cases rest with
      | nil => exact absurd hjoin.symm hne
      | cons next more =>
        rw [← hjoin] at habsolute
        cases habsolute
    · exact ⟨rest, rfl⟩

end Path

/-! ## Looking tidy paths up -/

theorem Utf8.length_encode_le {t t' : Text} (h : t.Sublist t') : (encode t).length ≤ (encode t').length := by
  induction h with
  | slnil => exact Nat.le_refl _
  | cons c _ ih =>
    rw [encode, encode, List.flatMap_cons, List.length_append]
    exact Nat.le_trans ih (Nat.le_add_left _ _)
  | cons_cons c _ ih =>
    rw [encode, encode, List.flatMap_cons, List.flatMap_cons, List.length_append, List.length_append]
    exact Nat.add_le_add_left ih _

namespace FileTree

section

variable {t : FileTree} {links : Nat} {p q : Place} {names : List Text} {path : Text} {e : Entry}

theorem checkPath_eq_ok_iff :
    checkPath path = .ok () ↔ '\x00' ∉ path ∧ path ≠ [] ∧ (Utf8.encode path).length ≤ maxPath := by
  rw [checkPath]
  by_cases hnull : '\x00' ∈ path
  · simp [hnull]
  · by_cases hnil : path = []
    · simp [hnil]
    · by_cases hlong : maxPath < (Utf8.encode path).length
      · simp [hnull, hnil, hlong, Nat.not_le.2 hlong]
      · simp [hnull, hnil, hlong, Nat.not_lt.1 hlong]

theorem checkPath_tidy (h : checkPath path = .ok ()) : checkPath (Path.tidy path) = .ok () := by
  obtain ⟨hnull, -, hlength⟩ := checkPath_eq_ok_iff.1 h
  refine checkPath_eq_ok_iff.2 ⟨?_, Path.tidy_ne_nil path, ?_⟩
  · rcases Path.tidy_sublist path with hhere | hsublist
    · rw [hhere]
      decide
    · exact fun hmem => hnull (hsublist.subset hmem)
  · rcases Path.tidy_sublist path with hhere | hsublist
    · rw [hhere]
      decide
    · exact Nat.le_trans (Utf8.length_encode_le hsublist) hlength

theorem move_nil (hentry : t.entry? p = some .directory) : t.move p [] = .ok (.place p) := by
  simp only [move, hentry, List.isEmpty_nil, if_true]

theorem move_here (hentry : t.entry? p = some .directory) :
    t.move p Path.here = if t.allows p .search then .ok (.place p) else .error .denied := by
  have hsome : Path.here.isEmpty = false := rfl
  simp only [move, hentry, hsome, Bool.false_eq_true, if_false, if_true]
  cases t.allows p .search <;> rfl

/-- where a component that stays where it is leads, if it may be followed -/
theorem eq_place_of_not_leadsOn {name : Text} {m : Move} (h : Path.leadsOn name = false)
    (hmove : t.move p name = .ok m) : m = .place p := by
  have hentry := entry?_of_move hmove
  rcases Path.eq_or_eq_of_not_leadsOn h with rfl | rfl
  · rw [move_nil hentry] at hmove
    exact (Except.ok.inj hmove).symm
  · rw [move_here hentry] at hmove
    split at hmove
    · exact (Except.ok.inj hmove).symm
    · cases hmove

/-- from a directory, empty components can be put in front -/
theorem result_walk_idle {idle : List Text} (hidle : ∀ name ∈ idle, name = []) (hentry : t.entry? p = some .directory) :
    (t.walk links p (idle ++ names)).result = (t.walk links p names).result := by
  induction idle with
  | nil => rfl
  | cons name rest ih =>
    obtain ⟨rfl, hrest⟩ := List.forall_mem_cons.1 hidle
    rw [List.cons_append, walk_of_place (move_nil hentry)]
    exact ih hrest

/-- a walk that gets to its end does so without the components that stay where they are. The induction is on the walk,
where the components of links are put in front of those that are left -/
theorem result_walk_filter {front rest : List Text} (hend : (t.walk links p (front ++ rest)).result = .ok q) :
    (t.walk links p (front ++ rest.filter Path.leadsOn)).result = .ok q := by
  generalize hnames : front ++ rest = names at hend
  induction links, p, names, hend using walk_ok_induction generalizing front rest with
  | nil links =>
    obtain ⟨rfl, rfl⟩ := List.append_eq_nil_iff.1 hnames
    rw [List.filter_nil, List.append_nil, walk_nil]
  | place links p name names next hmove _ ih =>
    cases front with
    | nil =>
      obtain rfl : rest = name :: names := hnames
      by_cases hkept : Path.leadsOn name = true
      · rw [List.filter_cons_of_pos hkept, List.nil_append, walk_of_place hmove]
        exact ih (List.nil_append names)
      · cases eq_place_of_not_leadsOn (Bool.eq_false_iff.2 hkept) hmove
        rw [List.filter_cons_of_neg hkept]
        exact ih (List.nil_append names)
    | cons first front =>
      obtain ⟨rfl, rfl⟩ := List.cons.inj hnames
      rw [List.cons_append, walk_of_place hmove]
      exact ih rfl
  | link links p name names next inner hmove _ ih =>
    cases front with
    | nil =>
      obtain rfl : rest = name :: names := hnames
      by_cases hkept : Path.leadsOn name = true
      · rw [List.filter_cons_of_pos hkept, List.nil_append, walk_of_link hmove]
        exact ih rfl
      · cases eq_place_of_not_leadsOn (Bool.eq_false_iff.2 hkept) hmove
    | cons first front =>
      obtain ⟨rfl, rfl⟩ := List.cons.inj hnames
      rw [List.cons_append, walk_of_link hmove, ← List.append_assoc]
      exact ih (List.append_assoc ..)

theorem entry?_start (t : FileTree) (path : Text) : t.entry? (t.start path) = some .directory := by
  rw [start, startFrom]
  split
  · exact if_pos rfl
  · exact if_pos (List.isSuffixOf_iff_suffix.2 (List.suffix_refl t.base))

/-- **What a path leads to, its tidy spelling leads to.** -/
theorem find_tidy (h : t.find path = .ok (q, e)) : t.find (Path.tidy path) = .ok (q, e) := by
  obtain ⟨⟨hcheck, hwalk⟩, hentry⟩ := find_eq_ok_iff.1 h
  refine find_eq_ok_iff.2 ⟨⟨checkPath_tidy hcheck, ?_⟩, hentry⟩
  have hstart : t.start (Path.tidy path) = t.start path := by rw [start, start, startFrom, startFrom, Path.isAbsolute_tidy]
  have hnames : (t.walk maxLinks (t.start path) ([] ++ Path.names path)).result = .ok q := result_walk_filter hwalk
  rw [follow, hstart]
  rcases Path.components_tidy_cases path with ⟨habsolute, hnone, hcomponents⟩ | ⟨idle, hcomponents, hidle⟩
  · obtain ⟨rest, hdot⟩ :=
      Path.exists_components_of_names_nil habsolute (checkPath_eq_ok_iff.1 hcheck).2.1 hnone
    rw [follow, hdot] at hwalk
    cases hmove : t.move (t.start path) Path.here with
    | error cause =>
      rw [walk_of_error hmove] at hwalk
      cases hwalk
    | ok m =>
      cases eq_place_of_not_leadsOn rfl hmove
      rw [hcomponents, walk_of_place hmove, ← hnone]
      exact hnames
  · rw [hcomponents]
    exact (result_walk_idle hidle (t.entry?_start path)).trans hnames

end

end FileTree

end Linewise
