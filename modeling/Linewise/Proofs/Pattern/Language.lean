/-
The texts that a pattern can take.

`Reads` says by one rule for each kind of pattern what a match can take of a text, and what the groups remember before and
after it. It asks nothing about the places between the characters and nothing about the number of rounds, so a match takes
no other text, but need not take this one. `acceptedAfter_of_run`: matching moves on by a text that the pattern reads, and
only then asks what comes after it.

The lemmas named `reads_..._iff` take the fixed patterns apart, so that a text which a sequence reads is known by its parts.
-/
import Linewise.Proofs.Pattern.Sequences

namespace Linewise.Pattern

/-! ## From one place to a later one -/

/-- the characters `taken` lead from one place to the other -/
def Place.Leads (p : Place) (taken : Text) (q : Place) : Prop :=
  p.after = taken ++ q.after ∧ q.before = taken.reverse ++ p.before

namespace Place.Leads

theorem refl (p : Place) : p.Leads [] p := ⟨rfl, rfl⟩

theorem trans {p q r : Place} {s t : Text} (hpq : p.Leads s q) (hqr : q.Leads t r) : p.Leads (s ++ t) r := by
  refine ⟨?_, ?_⟩
  · rw [hpq.1, hqr.1, List.append_assoc]
  · rw [hqr.2, hpq.2, List.reverse_append, List.append_assoc]

theorem offset_eq {p q : Place} {taken : Text} (h : p.Leads taken q) : q.offset = p.offset + taken.length := by
  rw [Place.offset, Place.offset, h.2, List.length_append, List.length_reverse, Nat.add_comm]

theorem upTo_eq {p q : Place} {taken : Text} (h : p.Leads taken q) : p.upTo q = taken := by
  rw [Place.upTo, h.offset_eq, Nat.add_sub_cancel_left, h.1, List.take_left]

end Place.Leads

/-! ## Texts and groups -/

/-- a pattern can take the text, with these groups before and after it -/
inductive Reads : Pattern → List (Nat × Text) → Text → List (Nat × Text) → Prop
  | empty {gs} : Reads .empty gs [] gs
  | one {set fold c gs} (h : set.contains fold c = true) : Reads (.one set fold) gs [c] gs
  | cat {p q gs hs js s t} (hp : Reads p gs s hs) (hq : Reads q hs t js) : Reads (.cat p q) gs (s ++ t) js
  | altLeft {p q gs hs s} (hp : Reads p gs s hs) : Reads (.alt p q) gs s hs
  | altRight {p q gs hs s} (hq : Reads q gs s hs) : Reads (.alt p q) gs s hs
  /-- a repetition stops -/
  | stop {p least most greed gs} : Reads (.many p least most greed) gs [] gs
  /-- a repetition makes one more round -/
  | round {p least most greed gs hs js s t} (hp : Reads p gs s hs) (hmore : Reads (.many p least most greed) hs t js) :
    Reads (.many p least most greed) gs (s ++ t) js
  | group {index p gs hs s} (hp : Reads p gs s hs) : Reads (.group index p) gs s ((index, s) :: hs)
  | atomic {p gs hs s} (hp : Reads p gs s hs) : Reads (.atomic p) gs s hs
  | backReference {index fold gs s t} (hgroup : gs.lookup index = some t) (hsame : fold = .exact → s = t) :
    Reads (.backReference index fold) gs s gs
  | anchor {a gs} : Reads (.anchor a) gs [] gs
  | ahead {p gs hs s} (hp : Reads p gs s hs) : Reads (.ahead false p) gs [] hs
  | notAhead {p gs} : Reads (.ahead true p) gs [] gs
  | behind {width p gs hs s} (hp : Reads p gs s hs) : Reads (.behind width false p) gs [] hs
  | notBehind {width p gs} : Reads (.behind width true p) gs [] gs
  | ifGroup {index p q gs hs s} (hp : Reads p gs s hs) : Reads (.ifGroup index p q) gs s hs
  | ifNoGroup {index p q gs hs s} (hq : Reads q gs s hs) : Reads (.ifGroup index p q) gs s hs

/-- `k` accepted a place to which a text leads that the pattern reads from `f` -/
def AcceptedAfter (p : Pattern) (k : Found → Option Found) (f g : Found) : Prop :=
  ∃ f' s, f.place.Leads s f'.place ∧ Reads p f.groups s f'.groups ∧ k f' = some g

/-! ## Matching takes what the pattern reads -/

variable {p q : Pattern} {k : Found → Option Found} {f g : Found}

theorem AcceptedAfter.here (h : Reads p f.groups [] f.groups) (hk : k f = some g) : AcceptedAfter p k f g :=
  ⟨f, [], .refl f.place, h, hk⟩

/-- one more round, and then the rounds after it -/
theorem AcceptedAfter.round {least : Nat} {most : Option Nat} {greed : Greed} {j : Found → Option Found}
    (hmore : ∀ f', j f' = some g → AcceptedAfter (.many p least most greed) k f' g) (h : AcceptedAfter p j f g) :
    AcceptedAfter (.many p least most greed) k f g := by
  obtain ⟨f', s, hlead, hs, hj⟩ := h
  obtain ⟨f'', t, hlead', ht, hk⟩ := hmore f' hj
  exact ⟨f'', s ++ t, hlead.trans hlead', .round hs ht, hk⟩

theorem acceptedAfter_greedyRounds {body : (Found → Option Found) → Found → Option Found} {least : Nat}
    {most : Option Nat} {fuel count : Nat} {last : Option Nat}
    (hbody : ∀ {j f}, body j f = some g → AcceptedAfter p j f g)
    (h : greedyRounds body least most k fuel count last f = some g) :
    AcceptedAfter (.many p least most .greedy) k f g := by
  induction fuel generalizing count last f with
  | zero => exact .here .stop h
  | succ fuel ih =>
    rw [greedyRounds] at h
    split at h
    · exact .round (fun _ => ih) (hbody h)
    · split at h
      · rcases Option.or_eq_some_iff.1 h with h | ⟨-, h⟩
        · exact .round (fun _ => ih) (hbody h)
        · exact .here .stop h
      · exact .here .stop h

theorem acceptedAfter_lazyRounds {body : (Found → Option Found) → Found → Option Found} {least : Nat}
    {most : Option Nat} {fuel count : Nat} {last : Option Nat}
    (hbody : ∀ {j f}, body j f = some g → AcceptedAfter p j f g)
    (h : lazyRounds body least most k fuel count last f = some g) :
    AcceptedAfter (.many p least most .lazy) k f g := by
  induction fuel generalizing count last f with
  | zero => exact .here .stop h
  | succ fuel ih =>
    rw [lazyRounds] at h
    split at h
    · exact .round (fun _ => ih) (hbody h)
    · rcases Option.or_eq_some_iff.1 h with h | ⟨-, h⟩
      · exact .here .stop h
      · split at h
        · exact .round (fun _ => ih) (hbody h)
        · cases h

theorem exists_leads_of_takeText {fold : Fold} {t : Text} {place place' : Place}
    (h : takeText fold t place = some place') :
    ∃ s, place.Leads s place' ∧ (fold = .exact → s = t) := by
  induction t generalizing place with
  | nil =>
    obtain rfl := Option.some.inj h
    exact ⟨[], .refl place, fun _ => rfl⟩
  | cons c rest ih =>
    obtain ⟨before, after⟩ := place
    cases after with
    | nil => cases h
    | cons d after =>
      rw [takeText] at h
      simp only at h
      split at h
      · rename_i hsame
        obtain ⟨s, hlead, hs⟩ := ih h
        refine ⟨d :: s, Place.Leads.trans (s := [d]) ⟨rfl, rfl⟩ hlead, ?_⟩
        rintro rfl
        rw [hs rfl]
        exact congrArg (· :: rest) hsame
      · cases h

/-- **Matching takes what the pattern reads.** What a pattern followed by `k` gives, `k` gave after a text that the pattern
reads. -/
theorem acceptedAfter_of_run (h : run p k f = some g) : AcceptedAfter p k f g := by
  induction p generalizing k f g with
  | empty =>
    rw [run_empty] at h
    exact .here .empty h
  | one set fold =>
    obtain ⟨⟨before, after⟩, groups⟩ := f
    cases after with
    | nil =>
      rw [run_one_nil] at h
      cases h
    | cons c rest =>
      rw [run_one_cons] at h
      split at h
      · rename_i hc
        exact ⟨⟨⟨c :: before, rest⟩, groups⟩, [c], ⟨rfl, rfl⟩, .one hc, h⟩
      · cases h
  | cat p q ihp ihq =>
    rw [run_cat] at h
    obtain ⟨f', s, hlead, hs, hq⟩ := ihp h
    obtain ⟨f'', t, hlead', ht, hk⟩ := ihq hq
    exact ⟨f'', s ++ t, hlead.trans hlead', .cat hs ht, hk⟩
  | alt p q ihp ihq =>
    rw [run_alt] at h
    rcases Option.or_eq_some_iff.1 h with h | ⟨-, h⟩
    · obtain ⟨f', s, hlead, hs, hk⟩ := ihp h
      exact ⟨f', s, hlead, .altLeft hs, hk⟩
    · obtain ⟨f', s, hlead, hs, hk⟩ := ihq h
      exact ⟨f', s, hlead, .altRight hs, hk⟩
  | many p least most greed ih =>
    cases greed with
    | greedy =>
      simp only [run] at h
      exact acceptedAfter_greedyRounds ih h
    | lazy =>
      simp only [run] at h
      exact acceptedAfter_lazyRounds ih h
  | group index p ih =>
    rw [run_group] at h
    obtain ⟨f', s, hlead, hs, hk⟩ := ih h
    simp only [hlead.upTo_eq] at hk
    exact ⟨{ f' with groups := (index, s) :: f'.groups }, s, hlead, .group hs, hk⟩
  | atomic p ih =>
    simp only [run] at h
    obtain ⟨f', hp, hk⟩ := Option.bind_eq_some_iff.1 h
    obtain ⟨f'', s, hlead, hs, hsome⟩ := ih hp
    obtain rfl := Option.some.inj hsome
    exact ⟨f'', s, hlead, .atomic hs, hk⟩
  | backReference index fold =>
    simp only [run] at h
    split at h
    · cases h
    · rename_i t hgroup
      obtain ⟨place, htake, hk⟩ := Option.bind_eq_some_iff.1 h
      obtain ⟨s, hlead, hsame⟩ := exists_leads_of_takeText htake
      exact ⟨{ f with place := place }, s, hlead, .backReference hgroup hsame, hk⟩
  | anchor a =>
    rw [run_anchor] at h
    split at h
    · exact .here .anchor h
    · cases h
  | ahead negated p ih =>
    -- a look keeps its groups, but never moves the place
    cases negated with
    | false =>
      simp only [run] at h
      obtain ⟨f', hp, hk⟩ := Option.bind_eq_some_iff.1 h
      obtain ⟨f'', s, -, hs, hsome⟩ := ih hp
      obtain rfl := Option.some.inj hsome
      exact ⟨{ f with groups := f''.groups }, [], .refl f.place, .ahead hs, hk⟩
    | true =>
      simp only [run] at h
      split at h
      · cases h
      · exact .here .notAhead h
  | behind width negated p ih =>
    cases negated with
    | false =>
      simp only [run] at h
      obtain ⟨place, -, h⟩ := Option.bind_eq_some_iff.1 h
      obtain ⟨f', hp, hk⟩ := Option.bind_eq_some_iff.1 h
      obtain ⟨f'', s, -, hs, hsome⟩ := ih hp
      obtain rfl := Option.some.inj hsome
      exact ⟨{ f with groups := f''.groups }, [], .refl f.place, .behind hs, hk⟩
    | true =>
      simp only [run] at h
      split at h
      · exact .here .notBehind h
      · split at h
        · cases h
        · exact .here .notBehind h
  | ifGroup index p q ihp ihq =>
    simp only [run] at h
    split at h
    · obtain ⟨f', s, hlead, hs, hk⟩ := ihp h
      exact ⟨f', s, hlead, .ifGroup hs, hk⟩
    · obtain ⟨f', s, hlead, hs, hk⟩ := ihq h
      exact ⟨f', s, hlead, .ifNoGroup hs, hk⟩

/-! ## What the fixed patterns read -/

variable {gs hs : List (Nat × Text)} {s : Text} {set : CharSet} {fold : Fold}

theorem reads_ofList_nil_iff : Reads (.ofList []) gs s hs ↔ s = [] ∧ hs = gs := by
  constructor
  · rintro ⟨⟩
    exact ⟨rfl, rfl⟩
  · rintro ⟨rfl, rfl⟩
    exact .empty

/-- a sequence reads what its parts read one after another -/
theorem reads_ofList_cons_iff {ps : List Pattern} :
    Reads (.ofList (p :: ps)) gs s hs ↔
      ∃ t u js, s = t ++ u ∧ Reads p gs t js ∧ Reads (.ofList ps) js u hs := by
  cases ps with
  | nil =>
    constructor
    · intro h
      exact ⟨s, [], hs, (List.append_nil s).symm, h, .empty⟩
    · rintro ⟨t, u, js, rfl, hp, hempty⟩
      obtain ⟨rfl, rfl⟩ := reads_ofList_nil_iff.1 hempty
      rwa [List.append_nil]
  | cons q ps =>
    constructor
    · rintro ⟨⟩
      rename_i js t u hp hq
      exact ⟨t, u, js, rfl, hp, hq⟩
    · rintro ⟨t, u, js, rfl, hp, hq⟩
      exact .cat hp hq

theorem reads_one_iff :
    Reads (.one set fold) gs s hs ↔ ∃ c, set.contains fold c = true ∧ s = [c] ∧ hs = gs := by
  constructor
  · rintro ⟨⟩
    rename_i c hc
    exact ⟨c, hc, rfl, rfl⟩
  · rintro ⟨c, hc, rfl, rfl⟩
    exact .one hc

theorem reads_char_iff {c : Char} : Reads (.char c) gs s hs ↔ s = [c] ∧ hs = gs := by
  rw [char, reads_one_iff]
  simp only [CharSet.contains_single, beq_iff_eq]
  constructor
  · rintro ⟨d, rfl, hs⟩
    exact hs
  · intro hs
    exact ⟨c, rfl, hs⟩

theorem reads_chars_append_iff {t : Text} {ps : List Pattern} :
    Reads (.ofList (chars t ++ ps)) gs s hs ↔ ∃ u, s = t ++ u ∧ Reads (.ofList ps) gs u hs := by
  induction t generalizing s with
  | nil =>
    constructor
    · intro h
      exact ⟨s, rfl, h⟩
    · rintro ⟨u, rfl, h⟩
      exact h
  | cons c t ih =>
    show Reads (.ofList (char c :: (chars t ++ ps))) gs s hs ↔ _
    rw [reads_ofList_cons_iff]
    simp only [reads_char_iff]
    constructor
    · rintro ⟨_, v, _, rfl, ⟨rfl, rfl⟩, h⟩
      obtain ⟨u, rfl, hu⟩ := ih.1 h
      exact ⟨u, rfl, hu⟩
    · rintro ⟨u, rfl, h⟩
      exact ⟨[c], t ++ u, gs, rfl, ⟨rfl, rfl⟩, ih.2 ⟨u, rfl, h⟩⟩

/-- a repetition of one character reads every text of such characters, for the rounds are not counted -/
theorem reads_many_one_iff {least : Nat} {most : Option Nat} {greed : Greed} :
    Reads (.many (.one set fold) least most greed) gs s hs ↔
      (∀ c ∈ s, set.contains fold c = true) ∧ hs = gs := by
  constructor
  · intro h
    generalize hp : Pattern.many (.one set fold) least most greed = p at h
    induction h with
    | stop => exact ⟨by simp, rfl⟩
    | round hround _ _ ih =>
      obtain ⟨rfl, rfl, rfl, rfl⟩ := Pattern.many.inj hp
      obtain ⟨c, hc, rfl, rfl⟩ := reads_one_iff.1 hround
      obtain ⟨hall, rfl⟩ := ih rfl
      exact ⟨List.forall_mem_cons.2 ⟨hc, hall⟩, rfl⟩
    | _ => cases hp
  · rintro ⟨hall, rfl⟩
    induction s with
    | nil => exact .stop
    | cons c s ih =>
      obtain ⟨hc, hall⟩ := List.forall_mem_cons.1 hall
      exact .round (s := [c]) (.one hc) (ih hall)

theorem reads_anchor_iff {a : Anchor} : Reads (.anchor a) gs s hs ↔ s = [] ∧ hs = gs := by
  constructor
  · rintro ⟨⟩
    exact ⟨rfl, rfl⟩
  · rintro ⟨rfl, rfl⟩
    exact .anchor

theorem reads_group_iff {index : Nat} :
    Reads (.group index p) gs s hs ↔ ∃ js, Reads p gs s js ∧ hs = (index, s) :: js := by
  constructor
  · rintro ⟨⟩
    rename_i js hp
    exact ⟨js, hp, rfl⟩
  · rintro ⟨js, hp, rfl⟩
    exact .group hp

theorem reads_backReference_iff {index : Nat} :
    Reads (.backReference index .exact) gs s hs ↔ gs.lookup index = some s ∧ hs = gs := by
  constructor
  · rintro ⟨⟩
    rename_i t hgroup hsame
    rw [hsame rfl]
    exact ⟨hgroup, rfl⟩
  · rintro ⟨hgroup, rfl⟩
    exact .backReference hgroup fun _ => rfl

/-! ## Which characters a pattern reads -/

/-- every character of a text that the pattern reads is in `P` -/
def ReadsOnly (P : Char → Prop) (p : Pattern) : Prop := ∀ gs s hs, Reads p gs s hs → ∀ c ∈ s, P c

variable {P : Char → Prop}

theorem readsOnly_anchor {a : Anchor} : ReadsOnly P (.anchor a) := by
  intro gs s hs h
  obtain ⟨rfl, -⟩ := reads_anchor_iff.1 h
  rintro _ ⟨⟩

theorem readsOnly_char {c : Char} (hc : P c) : ReadsOnly P (char c) := by
  intro gs s hs h
  obtain ⟨rfl, -⟩ := reads_char_iff.1 h
  simpa using hc

theorem readsOnly_many_one {least : Nat} {most : Option Nat} {greed : Greed}
    (hset : ∀ c, set.contains fold c = true → P c) : ReadsOnly P (.many (.one set fold) least most greed) :=
  fun _ _ _ h c hc => hset c ((reads_many_one_iff.1 h).1 c hc)

/-- a sequence reads only what its parts read -/
theorem readsOnly_ofList {ps : List Pattern} (h : ∀ p ∈ ps, ReadsOnly P p) : ReadsOnly P (.ofList ps) := by
  induction ps with
  | nil =>
    intro gs s hs hreads
    obtain ⟨rfl, -⟩ := reads_ofList_nil_iff.1 hreads
    rintro _ ⟨⟩
  | cons p ps ih =>
    obtain ⟨hp, hps⟩ := List.forall_mem_cons.1 h
    intro gs s hs hreads c hc
    obtain ⟨t, u, js, rfl, ht, hu⟩ := reads_ofList_cons_iff.1 hreads
    rcases List.mem_append.1 hc with hc | hc
    · exact hp gs t js ht c hc
    · exact ih hps js u hs hu c hc

theorem readsOnly_of_mem_chars {t : Text} (ht : ∀ c ∈ t, P c) : ∀ p ∈ chars t, ReadsOnly P p := by
  intro p hp
  obtain ⟨c, hc, rfl⟩ := List.mem_map.1 hp
  exact readsOnly_char (ht c hc)

end Linewise.Pattern
