/-
A file tree before and after a file of it is written.

Following a path goes from place to place, and only what stands at those places decides where it leads: writing a file
changes neither links nor what is denied. A path that does not meet a place (`FileTree.Meets`) leads where it led before,
whatever is put there (`find_put_of_not_meets`). A path that meets it on the way leads to no file, as long as no directory
stands there (`find_ne_ok_of_meets`), and a path that ends there leads to what is put there (`find_put_of_leadsTo`). So
putting a file changes the text of that file and of no other path (`holdsText_put_iff`).
-/
import Linewise.Config.Sources
import Linewise.Proofs.Outcomes
import Mathlib.Data.List.Basic

namespace Linewise

namespace FileTree

/-- a place stands on the way along a path or at its end -/
def Meets (t : FileTree) (path : Text) (place : Place) : Prop := place ∈ (t.follow path).places

instance (t : FileTree) (path : Text) (place : Place) : Decidable (t.Meets path place) :=
  inferInstanceAs (Decidable (_ ∈ _))

/-- a path ends at a place, whether something stands there or not -/
def LeadsTo (t : FileTree) (path : Text) (place : Place) : Prop :=
  checkPath path = .ok () ∧ (t.follow path).result = .ok place

instance (t : FileTree) (path : Text) (place : Place) : Decidable (t.LeadsTo path place) :=
  inferInstanceAs (Decidable (_ ∧ _))

/-- a path leads to a file that may be read and whose bytes are a text, read with universal newlines -/
def HoldsText (t : FileTree) (path text : Text) : Prop :=
  ∃ place content raw, t.find path = .ok (place, .file content) ∧ t.allows place .read = true ∧
    Utf8.decode content = .ok raw ∧ text = raw.universalNewlines

section

variable {t : FileTree} {links : Nat} {p q place : Place} {e : Entry} {name path : Text} {names : List Text}

/-! ## Walking -/

theorem walk_nil (t : FileTree) (links : Nat) (p : Place) : t.walk links p [] = { places := [p], result := .ok p } := by
  cases links <;> rfl

theorem walk_cons (t : FileTree) (links : Nat) (p : Place) (name : Text) (names : List Text) :
    t.walk links p (name :: names) = Walk.after p (
      match t.move p name, links with
      | .error cause, _ => { result := .error cause }
      | .ok (.place q), links => t.walk links q names
      | .ok (.link _ _), 0 => { result := .error .tooManyLinks }
      | .ok (.link q inner), links + 1 => t.walk links q (inner ++ names)) := by
  cases links with
  | zero =>
    rw [walk, walkBy]
    cases t.move p name with
    | error cause => rfl
    | ok m => cases m <;> rfl
  | succ links =>
    rw [walk, walkBy]
    cases t.move p name with
    | error cause => rfl
    | ok m => cases m <;> rfl

/-- what holds of walks: it is carried from the rest of a walk over one component, be it a name or a link, and holds where
a walk ends -/
theorem walk_induction (t : FileTree) {motive : Nat → Place → List Text → Prop}
    (nil : ∀ links p, motive links p [])
    (stuck : ∀ links p name names cause, t.move p name = .error cause → motive links p (name :: names))
    (tangled : ∀ p name names q inner, t.move p name = .ok (.link q inner) → motive 0 p (name :: names))
    (place : ∀ links p name names q, t.move p name = .ok (.place q) → motive links q names →
      motive links p (name :: names))
    (link : ∀ links p name names q inner, t.move p name = .ok (.link q inner) → motive links q (inner ++ names) →
      motive (links + 1) p (name :: names))
    (links : Nat) (p : Place) (names : List Text) : motive links p names := by
  induction links generalizing p names with
  | zero =>
    induction names generalizing p with
    | nil => exact nil 0 p
    | cons name names ih =>
      cases hmove : t.move p name with
      | error cause => exact stuck 0 p name names cause hmove
      | ok m =>
        cases m with
        | place q => exact place 0 p name names q hmove (ih q)
        | link q inner => exact tangled p name names q inner hmove
  | succ links ihLinks =>
    induction names generalizing p with
    | nil => exact nil (links + 1) p
    | cons name names ih =>
      cases hmove : t.move p name with
      | error cause => exact stuck (links + 1) p name names cause hmove
      | ok m =>
        cases m with
        | place q => exact place (links + 1) p name names q hmove (ih q)
        | link q inner => exact link links p name names q inner hmove (ihLinks q (inner ++ names))

theorem walk_of_place (hmove : t.move p name = .ok (.place q)) :
    t.walk links p (name :: names) = Walk.after p (t.walk links q names) := by
  rw [walk_cons, hmove]

theorem walk_of_link {inner : List Text} (hmove : t.move p name = .ok (.link q inner)) :
    t.walk (links + 1) p (name :: names) = Walk.after p (t.walk links q (inner ++ names)) := by
  rw [walk_cons, hmove]

theorem walk_of_error {cause : FileCause} (hmove : t.move p name = .error cause) :
    t.walk links p (name :: names) = { places := [p], result := .error cause } := by
  rw [walk_cons, hmove]
  rfl

theorem walk_of_tangled {inner : List Text} (hmove : t.move p name = .ok (.link q inner)) :
    t.walk 0 p (name :: names) = { places := [p], result := .error .tooManyLinks } := by
  rw [walk_cons, hmove]
  rfl

/-- what holds of walks that get to an end: it holds there, and is carried back over each component -/
theorem walk_ok_induction {motive : ∀ links p names, (t.walk links p names).result = .ok q → Prop}
    (nil : ∀ links, motive links q [] (by rw [walk_nil]))
    (place : ∀ links p name names next (hmove : t.move p name = .ok (.place next))
      (hrest : (t.walk links next names).result = .ok q), motive links next names hrest →
      motive links p (name :: names) (by rw [walk_of_place hmove]; exact hrest))
    (link : ∀ links p name names next inner (hmove : t.move p name = .ok (.link next inner))
      (hrest : (t.walk links next (inner ++ names)).result = .ok q), motive links next (inner ++ names) hrest →
      motive (links + 1) p (name :: names) (by rw [walk_of_link hmove]; exact hrest))
    (links : Nat) (p : Place) (names : List Text) (hend : (t.walk links p names).result = .ok q) :
    motive links p names hend := by
  induction links, p, names using walk_induction t with
  | nil links p =>
    obtain rfl : p = q := by
      rw [walk_nil] at hend
      exact Except.ok.inj hend
    exact nil links
  | stuck links p name names cause hmove =>
    rw [walk_of_error hmove] at hend
    cases hend
  | tangled p name names next inner hmove =>
    rw [walk_of_tangled hmove] at hend
    cases hend
  | place links p name names next hmove ih =>
    have hrest : (t.walk links next names).result = .ok q := by rwa [walk_of_place hmove] at hend
    exact place links p name names next hmove hrest (ih hrest)
  | link links p name names next inner hmove ih =>
    have hrest : (t.walk links next (inner ++ names)).result = .ok q := by rwa [walk_of_link hmove] at hend
    exact link links p name names next inner hmove hrest (ih hrest)

/-- a walk only goes on from directories -/
theorem entry?_of_move {m : Move} (h : t.move p name = .ok m) : t.entry? p = some .directory := by
  rw [move] at h
  split at h
  · cases h
  · cases h
  · rename_i hentry
    exact hentry

/-- so it comes by a place where no directory stands at its end only -/
theorem eq_of_mem_places (hplace : t.entry? place ≠ some .directory) (hmem : place ∈ (t.walk links p names).places)
    (hend : (t.walk links p names).result = .ok q) : place = q := by
  have hne {p : Place} {name : Text} {m : Move} (hmove : t.move p name = .ok m) : place ≠ p := by
    rintro rfl
    exact hplace (entry?_of_move hmove)
  induction links, p, names, hend using walk_ok_induction with
  | nil links =>
    rw [walk_nil] at hmem
    exact List.mem_singleton.1 hmem
  | place links p name names next hmove _ ih =>
    rw [walk_of_place hmove] at hmem
    exact ih ((List.mem_cons.1 hmem).resolve_left (hne hmove))
  | link links p name names next inner hmove _ ih =>
    rw [walk_of_link hmove] at hmem
    exact ih ((List.mem_cons.1 hmem).resolve_left (hne hmove))

/-! ## Putting a file -/

theorem entry?_put_of_ne (h : p ≠ place) : entry? (t.put place e) p = t.entry? p := by
  simp only [ entry?, put, List.lookup_cons, beq_eq_false_iff_ne.2 h]

theorem entry?_put_self (h : t.entry? place ≠ some .directory) : entry? (t.put place e) place = some e := by
  have habove : place.isSuffixOf t.base = false := by
    rw [Bool.eq_false_iff]
    intro habove
    exact h (if_pos habove)
  simp [ entry?, put, habove]

theorem allows_put_of_ne (h : p ≠ place) (r : Right) : (t.put place e).allows p r = t.allows p r := by
  rw [allows, allows, put]
  split
  · rfl
  · simp [List.contains_eq_mem, h]

/-- a new entry may be used in every way, another one as what stood there -/
theorem allows_put_self (r : Right) : (t.put place e).allows place r = ((t.entry? place).isNone || t.allows place r) := by
  rw [allows, allows, put]
  cases t.entry? place <;> simp

theorem move_put_of_ne (h : p ≠ place) (name : Text) : (t.put place e).move p name = t.move p name := by
  rw [move, move, entry?_put_of_ne h, allows_put_of_ne h]
  rfl

/-- a file is as little to go on from as another -/
theorem move_put_of_file {content content' : Bytes} (hplace : t.entry? place = some (.file content)) (p : Place)
    (name : Text) : (t.put place (.file content')).move p name = t.move p name := by
  by_cases hp : p = place
  · have hdirectory : t.entry? place ≠ some .directory := by
      rw [hplace]
      rintro ⟨⟩
    rw [hp, move, move, entry?_put_self hdirectory, hplace]
  · exact move_put_of_ne hp name

/-- the same moves from each place on the way make the same walk -/
theorem walk_congr {t' : FileTree}
    (h : ∀ q ∈ (t.walk links p names).places, ∀ name, t'.move q name = t.move q name) :
    t'.walk links p names = t.walk links p names := by
  induction links, p, names using walk_induction t with
  | nil links p => rw [walk_nil, walk_nil]
  | stuck links p name names cause hmove =>
    rw [walk_of_error hmove] at h ⊢
    exact walk_of_error ((h p List.mem_cons_self name).trans hmove)
  | tangled p name names q inner hmove =>
    rw [walk_of_tangled hmove] at h ⊢
    exact walk_of_tangled ((h p List.mem_cons_self name).trans hmove)
  | place links p name names q hmove ih =>
    rw [walk_of_place hmove] at h ⊢
    rw [walk_of_place ((h p List.mem_cons_self name).trans hmove), ih fun r hr => h r (List.mem_cons_of_mem p hr)]
  | link links p name names q inner hmove ih =>
    rw [walk_of_link hmove] at h ⊢
    rw [walk_of_link ((h p List.mem_cons_self name).trans hmove), ih fun r hr => h r (List.mem_cons_of_mem p hr)]

/-- a walk that gets to its end is the same wherever each of its moves can be made -/
theorem walk_mono {t' : FileTree} (h : ∀ {q name m}, t.move q name = .ok m → t'.move q name = .ok m)
    (hend : (t.walk links p names).result = .ok q) : t'.walk links p names = t.walk links p names := by
  induction links, p, names, hend using walk_ok_induction with
  | nil links => rw [walk_nil, walk_nil]
  | place links p name names next hmove _ ih => rw [walk_of_place hmove, walk_of_place (h hmove), ih]
  | link links p name names next inner hmove _ ih => rw [walk_of_link hmove, walk_of_link (h hmove), ih]

/-- before its end a walk comes by directories only, and these are still there when a file is put at its end -/
theorem walk_put_of_result (hplace : t.entry? place ≠ some .directory)
    (hend : (t.walk links p names).result = .ok q) : (t.put place e).walk links p names = t.walk links p names := by
  refine walk_mono (fun {r name m} hmove => ?_) hend
  have hr : r ≠ place := by
    rintro rfl
    exact hplace (entry?_of_move hmove)
  rw [move_put_of_ne hr, hmove]

/-- and a walk that gets to its end past a file gets there without it -/
theorem walk_of_put (hplace : t.entry? place ≠ some .directory) {content : Bytes}
    (hend : ((t.put place (.file content)).walk links p names).result = .ok q) :
    t.walk links p names = (t.put place (.file content)).walk links p names := by
  refine walk_mono (fun {r name m} hmove => ?_) hend
  have hr : r ≠ place := by
    rintro rfl
    have hentry := entry?_of_move hmove
    rw [entry?_put_self hplace] at hentry
    cases hentry
  rw [← hmove, move_put_of_ne hr]

/-! ## Looking paths up -/

theorem find_eq_ok_iff :
    t.find path = .ok (q, e) ↔ t.LeadsTo path q ∧ t.entry? q = some e := by
  simp only [find, LeadsTo, bind_eq_ok_iff]
  constructor
  · rintro ⟨_, hcheck, place, hend, hfound⟩
    cases hentry : t.entry? place with
    | none =>
      rw [hentry] at hfound
      cases hfound
    | some entry =>
      rw [hentry] at hfound
      cases hfound
      exact ⟨⟨hcheck, hend⟩, hentry⟩
  · rintro ⟨⟨hcheck, hend⟩, hentry⟩
    refine ⟨(), hcheck, q, hend, ?_⟩
    rw [hentry]

theorem read_eq_ok_iff {content : Bytes} :
    t.read path = .ok content ↔ ∃ q, t.find path = .ok (q, .file content) ∧ t.allows q .read = true := by
  rw [read]
  cases t.find path with
  | error cause => simp
  | ok found =>
    obtain ⟨q, entry⟩ := found
    cases hread : t.allows q .read <;> cases entry <;> simp [hread]

/-- a file that may not be read -/
theorem read_of_denied {content : Bytes} (hfind : t.find path = .ok (q, .file content))
    (hread : t.allows q .read = false) : t.read path = .error ⟨.denied, path⟩ := by
  rw [read, hfind]
  simp [hread]

theorem readText_eq_ok_iff {text : Text} : t.readText path = .ok (.ok text) ↔ t.HoldsText path text := by
  rw [readText, map_eq_ok_iff, HoldsText]
  constructor
  · rintro ⟨content, hread, htext⟩
    obtain ⟨q, hfind, hallowed⟩ := read_eq_ok_iff.1 hread
    obtain ⟨raw, hdecode, rfl⟩ := map_eq_ok_iff.1 htext
    exact ⟨q, content, raw, hfind, hallowed, hdecode, rfl⟩
  · rintro ⟨q, content, raw, hfind, hallowed, hdecode, rfl⟩
    exact ⟨content, read_eq_ok_iff.2 ⟨q, hfind, hallowed⟩, map_eq_ok_iff.2 ⟨raw, hdecode, rfl⟩⟩

/-- what a path leads to if it is followed to the same place and the same stands there -/
theorem find_congr {t' : FileTree} (hfollow : t'.follow path = t.follow path)
    (hentry : ∀ q, (t.follow path).result = .ok q → t'.entry? q = t.entry? q) : t'.find path = t.find path := by
  rw [find, find, hfollow]
  cases hend : (t.follow path).result with
  | error cause => rfl
  | ok q => simp only [bind, Except.bind, hentry q hend]

/-- the end of a walk is one of its places -/
theorem mem_places_of_result (hend : (t.walk links p names).result = .ok q) : q ∈ (t.walk links p names).places := by
  induction links, p, names, hend using walk_ok_induction with
  | nil links =>
    rw [walk_nil]
    exact List.mem_singleton.2 rfl
  | place links p name names next hmove _ ih =>
    rw [walk_of_place hmove]
    exact List.mem_cons_of_mem p ih
  | link links p name names next inner hmove _ ih =>
    rw [walk_of_link hmove]
    exact List.mem_cons_of_mem p ih

/-- a path that does not meet the place leads where it led -/
theorem find_put_of_not_meets (h : ¬ t.Meets path place) : (t.put place e).find path = t.find path := by
  have hne {q : Place} (hq : q ∈ (t.follow path).places) : q ≠ place := by
    rintro rfl
    exact h hq
  have hfollow : (t.put place e).follow path = t.follow path :=
    walk_congr fun q hq name => move_put_of_ne (hne hq) name
  exact find_congr hfollow fun q hend => entry?_put_of_ne (hne (mem_places_of_result hend))

/-- nor does a path that meets a file on its way, if another stands there -/
theorem find_put_of_file {content content' : Bytes} (hplace : t.entry? place = some (.file content))
    (hend : ¬ t.LeadsTo path place) : (t.put place (.file content')).find path = t.find path := by
  have hfollow : (t.put place (.file content')).follow path = t.follow path :=
    walk_congr fun q _ name => move_put_of_file hplace q name
  cases hcheck : checkPath path with
  | error cause => rw [find, find, hcheck]; rfl
  | ok _ =>
    refine find_congr hfollow fun q hq => entry?_put_of_ne ?_
    rintro rfl
    exact hend ⟨hcheck, hq⟩

/-- reading a path that leads where it led gives what it gave, unless what is put stands there -/
theorem read_put (hend : ¬ t.LeadsTo path place) (hfind : (t.put place e).find path = t.find path) :
    (t.put place e).read path = t.read path := by
  rw [read, read, hfind]
  cases hleads : t.find path with
  | error cause => rfl
  | ok found =>
    have hne : found.1 ≠ place := by
      rintro rfl
      exact hend (find_eq_ok_iff.1 hleads).1
    simp only [allows_put_of_ne hne]

/-- a file that is written leaves what other paths give as it was: their text, or why they have none. Only if it is new
can a path that goes through it end otherwise -/
theorem readText_put (hplace : t.entry? place ≠ some .directory) (hend : ¬ t.LeadsTo path place)
    (hthrough : (t.entry? place).isSome = true ∨ ¬ t.Meets path place) (content : Bytes) :
    (t.put place (.file content)).readText path = t.readText path := by
  have hfind : (t.put place (.file content)).find path = t.find path := by
    rcases hthrough with hsome | hmeets
    · obtain ⟨entry, hentry⟩ := Option.isSome_iff_exists.1 hsome
      cases entry with
      | file old => exact find_put_of_file hentry hend
      | directory => exact absurd hentry hplace
    · exact find_put_of_not_meets hmeets
  rw [readText, readText, read_put hend hfind]

/-- a file that is put as it stands is read as before -/
theorem readText_put_self {content : Bytes} (hplace : t.entry? place = some (.file content)) :
    (t.put place (.file content)).readText path = t.readText path := by
  have hfile : t.entry? place ≠ some .directory := by
    rw [hplace]
    rintro ⟨⟩
  by_cases hend : t.LeadsTo path place
  · have hfollow : (t.put place (.file content)).follow path = t.follow path := walk_put_of_result hfile hend.2
    have hleads : (t.put place (.file content)).LeadsTo path place := ⟨hend.1, hfollow ▸ hend.2⟩
    rw [readText, readText, read, read, find_eq_ok_iff.2 ⟨hleads, entry?_put_self hfile⟩,
      find_eq_ok_iff.2 ⟨hend, hplace⟩]
    simp only [allows_put_self, hplace, Option.isNone_some, Bool.false_or]
  · exact readText_put hfile hend (.inl (by rw [hplace]; rfl)) content

section

variable (hplace : t.entry? place ≠ some .directory)
include hplace

/-- putting a file leads no path there that did not -/
theorem leadsTo_of_put {content : Bytes} (h : (t.put place (.file content)).LeadsTo path q) : t.LeadsTo path q := by
  have hfollow : t.follow path = (t.put place (.file content)).follow path := walk_of_put hplace h.2
  exact ⟨h.1, hfollow ▸ h.2⟩

/-- a path that meets the place before its end leads nowhere -/
theorem find_ne_ok_of_meets (hmeets : t.Meets path place) (hend : ¬ t.LeadsTo path place) :
    t.find path ≠ .ok (q, e) := by
  intro hfind
  obtain ⟨⟨hcheck, hpath⟩, -⟩ := find_eq_ok_iff.1 hfind
  obtain rfl : place = q := eq_of_mem_places hplace hmeets hpath
  exact hend ⟨hcheck, hpath⟩

/-- a path that ends at the place leads to what is put there -/
theorem find_put_of_leadsTo (h : t.LeadsTo path place) (e : Entry) : (t.put place e).find path = .ok (place, e) := by
  have hfollow : (t.put place e).follow path = t.follow path := walk_put_of_result hplace h.2
  exact find_eq_ok_iff.2 ⟨⟨h.1, hfollow ▸ h.2⟩, entry?_put_self hplace⟩

/-- putting a file changes the text of no path that does not end there -/
theorem holdsText_put_iff (hend : ¬ t.LeadsTo path place) (content : Bytes) {text : Text} :
    (t.put place (.file content)).HoldsText path text ↔ t.HoldsText path text := by
  by_cases hmeets : t.Meets path place
  · -- with the file or without it, a walk that comes by the place does not get any further
    refine iff_of_false ?_ ?_
    · rintro ⟨q, bytes, raw, hfind, -⟩
      have hleads : t.LeadsTo path q := leadsTo_of_put hplace (find_eq_ok_iff.1 hfind).1
      obtain rfl : place = q := eq_of_mem_places hplace hmeets hleads.2
      exact hend hleads
    · rintro ⟨q, bytes, raw, hfind, -⟩
      exact find_ne_ok_of_meets hplace hmeets hend hfind
  · rw [← readText_eq_ok_iff, ← readText_eq_ok_iff, readText, readText,
      read_put hend (find_put_of_not_meets hmeets)]

end

/-! ## Writable paths -/

theorem withoutSlashes_of_false (h : (withoutSlashes path).2 = false) :
    (withoutSlashes path).1 = Path.components path := by
  have hsuffix := List.dropWhile_suffix List.isEmpty (l := (Path.components path).reverse)
  have hlength := of_decide_eq_false h
  rw [List.length_reverse, ← (Path.components path).length_reverse, Nat.not_lt] at hlength
  rw [withoutSlashes]
  show (List.dropWhile _ _).reverse = _
  rw [hsuffix.eq_of_length_le hlength, List.reverse_reverse]

/-- a path can be written to if it does not end with a slash and a file can be written at the place that it leads to -/
theorem findWritable_eq_ok_iff :
    t.findWritable path = .ok place ↔
      (withoutSlashes path).2 = false ∧ t.LeadsTo path place ∧ t.checkWritable place = .ok () := by
  rw [findWritable, mapError_eq_ok_iff, bind_eq_ok_iff, LeadsTo, follow]
  cases hslashes : (withoutSlashes path).2 with
  | true =>
    refine iff_of_false ?_ (by rintro ⟨⟨⟩, -⟩)
    rintro ⟨-, -, hfound⟩
    simp only [hslashes, if_true, bind_eq_ok_iff] at hfound
    obtain ⟨-, -, hfound⟩ := hfound
    cases hfound
  | false =>
    simp only [hslashes, Bool.false_eq_true, if_false, bind_eq_ok_iff, withoutSlashes_of_false hslashes, true_and]
    constructor
    · rintro ⟨_, hcheck, p, hend, _, hwritable, hp⟩
      cases hp
      exact ⟨⟨hcheck, hend⟩, hwritable⟩
    · rintro ⟨⟨hcheck, hend⟩, hwritable⟩
      exact ⟨(), hcheck, place, hend, (), hwritable, rfl⟩

/-- no directory stands where a path can be written to -/
theorem not_directory_of_findWritable (h : t.findWritable path = .ok place) : t.entry? place ≠ some .directory := by
  intro hentry
  obtain ⟨-, -, hwritable⟩ := findWritable_eq_ok_iff.1 h
  rw [checkWritable, hentry] at hwritable
  cases hwritable

end

end FileTree

end Linewise
