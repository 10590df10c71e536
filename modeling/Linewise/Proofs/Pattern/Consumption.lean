/-
What the steps of reading take.

A step that succeeds has taken some tokens from the front, and the modes are as before unless flags for the whole
pattern were read (`Reading.To`). Three kinds of steps differ in the last token they take: it is whatever comes
(`Takes`), it is no escape (`TakesWhole`), or it is there and no escape (`TakesClosed`), as it is for everything that has
to be closed. So an escape is never the end of something longer, except in the comment of a verbose pattern.
-/
import Linewise.Pattern.Reader
import Linewise.Proofs.Outcomes

namespace Linewise.Pattern

variable {α β : Type}

/-! ## Reading steps one after another -/

theorem bind_eq_ok {m : ReadM α} {f : α → ReadM β} {r s : Reading} {b : β} :
    (m >>= f) r = .ok (b, s) ↔ ∃ a r', m r = .ok (a, r') ∧ f a r' = .ok (b, s) := by
  show (StateT.bind m f) r = _ ↔ _
  simp only [StateT.bind, bind, Except.bind]
  cases h : m r with
  | error e => simp
  | ok x =>
    obtain ⟨a, r'⟩ := x
    exact ⟨fun h => ⟨a, r', rfl, h⟩, by rintro ⟨_, _, ⟨⟩, h⟩; exact h⟩

theorem bind_of_ok {m : ReadM α} {f : α → ReadM β} {r s : Reading} {a : α} (h : m r = .ok (a, s)) :
    (m >>= f) r = f a s := by
  show (StateT.bind m f) r = _
  simp only [StateT.bind, bind, Except.bind, h]

theorem get_then {f : Reading → ReadM β} {r : Reading} : (get >>= f) r = f r r := rfl

theorem cases_of_ite {c : Prop} [Decidable c] {m m' : ReadM α} {r : Reading} {x : Except Fault (α × Reading)}
    (h : (if c then m else m') r = x) : (c ∧ m r = x) ∨ (¬ c ∧ m' r = x) := by
  split at h
  · exact .inl ⟨‹c›, h⟩
  · exact .inr ⟨‹¬ c›, h⟩

/-- the tokens `used` are taken from the front and `s` is left; the modes stay if no flags for the whole pattern can
come -/
structure Reading.To (first : Bool) (r : Reading) (used : List Token) (s : Reading) : Prop where
  rest_eq : r.rest = used ++ s.rest
  dangling_eq : s.dangling = r.dangling
  /-- the last token is not taken if a lone backslash comes after it -/
  rest_ne_nil : r.dangling = true → used ≠ [] → s.rest ≠ []
  modes_eq : first = false → s.modes = r.modes

namespace Reading.To

variable {first : Bool} {r s s' : Reading} {used used' : List Token}

theorem of_eq (hrest : s.rest = r.rest) (hdangling : s.dangling = r.dangling)
    (hmodes : first = false → s.modes = r.modes) : r.To first [] s :=
  ⟨hrest.symm, hdangling, fun _ h => absurd rfl h, hmodes⟩

theorem refl (r : Reading) : r.To first [] r := of_eq rfl rfl fun _ => rfl

theorem trans (h : r.To first used s) (h' : s.To first used' s') : r.To first (used ++ used') s' where
  rest_eq := by rw [h.rest_eq, h'.rest_eq, List.append_assoc]
  dangling_eq := h'.dangling_eq.trans h.dangling_eq
  rest_ne_nil hd hne := by
    by_cases hused : used' = []
    · subst hused
      rw [List.append_nil] at hne
      have hrest := h.rest_ne_nil hd hne
      rwa [h'.rest_eq, List.nil_append] at hrest
    · exact h'.rest_ne_nil (h.dangling_eq.trans hd) hused
  modes_eq hf := (h'.modes_eq hf).trans (h.modes_eq hf)

theorem mono {first' : Bool} (h : r.To first used s) (hfirst : first' = false → first = false) : r.To first' used s :=
  { h with modes_eq := fun hf => h.modes_eq (hfirst hf) }

theorem weaken (h : r.To false used s) : r.To first used s := h.mono fun _ => rfl

end Reading.To

/-- the last token is no escape -/
def Whole (used : List Token) : Prop := ∀ c, used.getLast? ≠ some (.escape c)

/-- the last token is there, and no escape -/
def Closed (used : List Token) : Prop := ∃ c, used.getLast? = some (.plain c)

theorem Closed.whole {used : List Token} (h : Closed used) : Whole used := by
  obtain ⟨c, hc⟩ := h
  intro d hd
  cases hc.symm.trans hd

theorem Whole.nil : Whole [] := by
  intro c h
  cases h

theorem Closed.plain {c : Char} : Closed [.plain c] := ⟨c, rfl⟩

theorem Whole.plain {c : Char} : Whole [.plain c] := Closed.plain.whole

theorem Closed.append {used' : List Token} (used : List Token) (h : Closed used') : Closed (used ++ used') := by
  obtain ⟨c, hc⟩ := h
  exact ⟨c, by simp [List.getLast?_append, hc]⟩

theorem Whole.append {used used' : List Token} (h : Whole used) (h' : Whole used') : Whole (used ++ used') := by
  intro c hc
  cases hlast : used'.getLast? with
  | none => exact h c (by simpa [List.getLast?_append, hlast] using hc)
  | some t => exact h' c (by simpa [List.getLast?_append, hlast] using hc)

theorem Closed.append_whole {used used' : List Token} (h : Closed used) (h' : Whole used') :
    Closed (used ++ used') := by
  obtain ⟨c, hc⟩ := h
  cases hlast : used'.getLast? with
  | none => exact ⟨c, by simp [List.getLast?_append, hlast, hc]⟩
  | some t =>
    cases t with
    | plain d => exact ⟨d, by simp [List.getLast?_append, hlast]⟩
    | escape d => exact absurd hlast (h' d)

/-- a step that takes some tokens, in `E` -/
def TakesIn (E : List Token → Prop) (first : Bool) (m : ReadM α) : Prop :=
  ∀ r a s, m r = .ok (a, s) → ∃ used, E used ∧ r.To first used s

/-- a step that takes some tokens -/
abbrev Takes (first : Bool) (m : ReadM α) : Prop := TakesIn (fun _ => True) first m

/-- a step that takes no tokens, or some of which the last is no escape -/
abbrev TakesWhole (first : Bool) (m : ReadM α) : Prop := TakesIn Whole first m

/-- a step that takes some tokens, the last of which is there and no escape -/
abbrev TakesClosed (first : Bool) (m : ReadM α) : Prop := TakesIn Closed first m

variable {first : Bool} {m : ReadM α} {f : α → ReadM β} {E F G : List Token → Prop}

namespace TakesIn

theorem bind (hm : TakesIn E first m) (hf : ∀ a, TakesIn F first (f a)) (hEF : ∀ u v, E u → F v → G (u ++ v)) :
    TakesIn G first (m >>= f) := by
  intro r b s hok
  obtain ⟨a, r', hok, hok'⟩ := bind_eq_ok.1 hok
  obtain ⟨u, hu, hto⟩ := hm r a r' hok
  obtain ⟨v, hv, hto'⟩ := hf a r' b s hok'
  exact ⟨u ++ v, hEF u v hu hv, hto.trans hto'⟩

/-- a step that leaves the tokens and the modes as they are -/
theorem of_still (hnil : E []) (h : ∀ r a s, m r = .ok (a, s) →
    s.rest = r.rest ∧ s.dangling = r.dangling ∧ (first = false → s.modes = r.modes)) : TakesIn E first m := by
  intro r a s hok
  obtain ⟨hrest, hdangling, hmodes⟩ := h r a s hok
  exact ⟨[], hnil, .of_eq hrest hdangling hmodes⟩

theorem getThen {f : Reading → ReadM β} (h : ∀ r, TakesIn E first (f r)) : TakesIn E first (get >>= f) :=
  fun r => h r r

theorem peekThen {f : Option Token → ReadM β} (h : ∀ t, TakesIn E first (f t)) : TakesIn E first (peek >>= f) :=
  fun r => h r.rest.head? r

theorem failBack {cause : Cause} {back : Nat} : TakesIn E first (failBack cause back : ReadM α) := by
  intro r a s hok
  cases hok

theorem failAt {cause : Cause} {offset : Nat} : TakesIn E first (failAt cause offset : ReadM α) := by
  intro r a s hok
  cases hok

/-- a check before the rest -/
theorem checkBack {c : Prop} [Decidable c] {cause : Cause} {back : Nat} {m : ReadM β} (h : TakesIn E first m) :
    TakesIn E first (if c then Pattern.failBack cause back >>= f else m) := by
  split
  · intro r a s hok
    cases hok
  · exact h

theorem checkAt {c : Prop} [Decidable c] {cause : Cause} {offset : Nat} {m : ReadM β} (h : TakesIn E first m) :
    TakesIn E first (if c then Pattern.failAt cause offset >>= f else m) := by
  split
  · intro r a s hok
    cases hok
  · exact h

theorem checkWhole {c : Prop} [Decidable c] {cause : Cause} {m : ReadM β} (h : TakesIn E first m) :
    TakesIn E first (if c then failWhole cause >>= f else m) := by
  split
  · intro r a s hok
    cases hok
  · exact h

theorem ite {c : Prop} [Decidable c] {m m' : ReadM α} (h : TakesIn E first m) (h' : TakesIn E first m') :
    TakesIn E first (if c then m else m') := by
  split
  · exact h
  · exact h'

theorem iteNot {c : Prop} [Decidable c] {m m' : ReadM α} (hc : ¬ c) (h' : TakesIn E first m') :
    TakesIn E first (if c then m else m') := by
  rwa [if_neg hc]

theorem pure (a : α) : TakesWhole first (Pure.pure a : ReadM α) := by
  refine .of_still Whole.nil ?_
  rintro r b s ⟨⟩
  exact ⟨rfl, rfl, fun _ => rfl⟩

theorem andThen (hm : TakesWhole first m) (hf : ∀ a, TakesWhole first (f a)) : TakesWhole first (m >>= f) :=
  hm.bind hf fun _ _ => Whole.append

theorem thenClosed (hm : TakesIn E first m) (hf : ∀ a, TakesClosed first (f a)) : TakesClosed first (m >>= f) :=
  hm.bind hf fun used _ _ => Closed.append used

theorem closedThen (hm : TakesClosed first m) (hf : ∀ a, TakesWhole first (f a)) : TakesClosed first (m >>= f) :=
  hm.bind hf fun _ _ => Closed.append_whole

theorem whole (hm : TakesClosed first m) : TakesWhole first m := by
  intro r a s hok
  obtain ⟨used, hclosed, hto⟩ := hm r a s hok
  exact ⟨used, hclosed.whole, hto⟩

theorem takes (hm : TakesIn E first m) : Takes first m := by
  intro r a s hok
  obtain ⟨used, -, hto⟩ := hm r a s hok
  exact ⟨used, trivial, hto⟩

theorem andThenTakes (hm : TakesIn E first m) (hf : ∀ a, Takes first (f a)) : Takes first (m >>= f) :=
  hm.bind hf fun _ _ _ _ => trivial

theorem mono {first' : Bool} (hm : TakesIn E first m) (hfirst : first' = false → first = false) :
    TakesIn E first' m := by
  intro r a s hok
  obtain ⟨used, hE, hto⟩ := hm r a s hok
  exact ⟨used, hE, hto.mono hfirst⟩

theorem weaken (hm : TakesIn E false m) : TakesIn E first m := hm.mono fun _ => rfl

end TakesIn

/-! ## Single tokens -/

theorem take_nil {r : Reading} (h : r.rest = []) : take r = .ok (none, r) := by
  rw [take, get_then, h]
  rfl

theorem take_cons {r : Reading} {t : Token} {left : List Token} (h : r.rest = t :: left) :
    take r = if left.isEmpty && r.dangling then
        .error ⟨.danglingBackslash, r.pattern, some (r.offset + t.length)⟩
      else .ok (some t, { r with rest := left, offset := r.offset + t.length }) := by
  obtain ⟨pattern, rest, dangling, offset, modes, groups, names, outerGroups, conditions, flags⟩ := r
  obtain rfl : rest = t :: left := h
  cases left with
  | nil => cases dangling <;> rfl
  | cons u left => cases dangling <;> rfl

theorem to_of_take {r s : Reading} {t : Option Token} (h : take r = .ok (t, s)) :
    (r.rest = [] ∧ t = none ∧ s = r) ∨ ∃ u, t = some u ∧ r.To false [u] s := by
  cases hrest : r.rest with
  | nil =>
    rw [take_nil hrest] at h
    cases h
    exact .inl ⟨rfl, rfl, rfl⟩
  | cons u left =>
    rw [take_cons hrest] at h
    split at h
    · cases h
    · rename_i hdangling
      cases h
      refine .inr ⟨u, rfl, ⟨hrest, rfl, ?_, fun _ => rfl⟩⟩
      rintro hd - rfl
      exact hdangling (by simp [hd])

theorem takes_take : Takes first take := by
  intro r t s hok
  obtain ⟨-, -, rfl⟩ | ⟨u, -, hto⟩ := to_of_take hok
  · exact ⟨[], trivial, .refl s⟩
  · exact ⟨[u], trivial, hto.weaken⟩

theorem to_of_take_of_head {r s : Reading} {t : Token} {a : Option Token} (hhead : r.rest.head? = some t)
    (h : take r = .ok (a, s)) : r.To false [t] s := by
  obtain ⟨hnil, -⟩ | ⟨u, rfl, hto⟩ := to_of_take h
  · rw [hnil] at hhead
    cases hhead
  · rw [hto.rest_eq] at hhead
    cases hhead
    exact hto

namespace TakesIn

/-- a token is taken, and what it is says how to go on -/
theorem takeThenIn {f : Option Token → ReadM β} (hE : ∀ c u, Whole u → E (.plain c :: u))
    (hE' : ∀ t u, Closed u → E (t :: u)) (none : TakesIn E first (f none))
    (plain : ∀ c, TakesWhole first (f (some (.plain c)))) (escape : ∀ c, TakesClosed first (f (some (.escape c)))) :
    TakesIn E first (take >>= f) := by
  intro r b s hok
  obtain ⟨t, r', htake, hok⟩ := bind_eq_ok.1 hok
  obtain ⟨-, rfl, hr⟩ | ⟨t, rfl, hto⟩ := to_of_take htake
  · exact none r b s (hr ▸ hok)
  · cases t with
    | plain c =>
      obtain ⟨used, hwhole, hto'⟩ := plain c r' b s hok
      exact ⟨_, hE c used hwhole, hto.weaken.trans hto'⟩
    | escape c =>
      obtain ⟨used, hclosed, hto'⟩ := escape c r' b s hok
      exact ⟨_, hE' _ used hclosed, hto.weaken.trans hto'⟩

theorem takeThen {f : Option Token → ReadM β} (none : TakesWhole first (f none))
    (plain : ∀ c, TakesWhole first (f (some (.plain c)))) (escape : ∀ c, TakesClosed first (f (some (.escape c)))) :
    TakesWhole first (take >>= f) :=
  takeThenIn (fun _ _ => Whole.plain.append) (fun t _ h => (h.append [t]).whole) none plain escape

theorem takeThenClosed {f : Option Token → ReadM β} (none : TakesClosed first (f none))
    (plain : ∀ c, TakesWhole first (f (some (.plain c)))) (escape : ∀ c, TakesClosed first (f (some (.escape c)))) :
    TakesClosed first (take >>= f) :=
  takeThenIn (fun _ _ => Closed.plain.append_whole) (fun t _ h => h.append [t]) none plain escape

end TakesIn

theorem takeIf_eq_ok {c : Char} {r s : Reading} {b : Bool} (h : takeIf c r = .ok (b, s)) :
    (b = true ∧ r.To false [.plain c] s) ∨ (b = false ∧ s = r ∧ r.rest.head? ≠ some (.plain c)) := by
  change (if r.rest.head? = some (.plain c) then _ else _ : ReadM Bool) r = _ at h
  split at h
  · rename_i hhead
    obtain ⟨t, r', htake, hok⟩ := bind_eq_ok.1 h
    cases hok
    exact .inl ⟨rfl, to_of_take_of_head hhead htake⟩
  · rename_i hhead
    cases h
    exact .inr ⟨rfl, rfl, hhead⟩

theorem takesWhole_takeIf (c : Char) : TakesWhole first (takeIf c) := by
  intro r b s hok
  obtain ⟨-, hto⟩ | ⟨-, rfl, -⟩ := takeIf_eq_ok hok
  · exact ⟨_, Whole.plain, hto.weaken⟩
  · exact ⟨_, Whole.nil, .refl s⟩

theorem takesClosed_expectClose (start : Nat) : TakesClosed first (expectClose start) := by
  intro r u s hok
  obtain ⟨b, r', htake, hok⟩ := bind_eq_ok.1 hok
  obtain ⟨rfl, hto⟩ | ⟨rfl, -⟩ := takeIf_eq_ok htake
  · cases hok
    exact ⟨_, Closed.plain, hto.weaken⟩
  · cases hok

theorem takesWhole_takeSome (p : Char → Bool) (n : Nat) : TakesWhole first (takeSome p n) := by
  induction n with
  | zero => exact .pure _
  | succ n ih =>
    intro r a s hok
    obtain ⟨t, r', hpeek, hok⟩ := bind_eq_ok.1 hok
    obtain ⟨hhead, rfl⟩ : r.rest.head? = t ∧ r = r' := by
      cases hpeek
      exact ⟨rfl, rfl⟩
    obtain _ | c | c := t
    · exact TakesIn.pure _ r a s hok
    · dsimp only at hok
      split at hok
      · obtain ⟨t, r', htake, hok⟩ := bind_eq_ok.1 hok
        obtain ⟨used, hwhole, hto⟩ := ih.andThen (fun _ => .pure _) r' a s hok
        exact ⟨_, Whole.plain.append hwhole, (to_of_take_of_head hhead htake).weaken.trans hto⟩
      · exact TakesIn.pure _ r a s hok
    · exact TakesIn.pure _ r a s hok

theorem takesClosed_takeName (closer : Char) (what : Text) (fuel : Nat) (name : Text) :
    TakesClosed first (takeName closer what fuel name) := by
  induction fuel generalizing name with
  | zero => exact .failBack
  | succ fuel ih =>
    refine .takeThenClosed (.ite .failBack .failBack) (fun c => ?_) fun c => ?_
    · exact .ite (.ite .failBack (.pure _)) (ih _).whole
    · exact ih _

theorem takesClosed_readName (closer : Char) (what : Text) : TakesClosed first (readName closer what) :=
  .getThen fun _ => takesClosed_takeName _ _ _ _

/-! ## Escapes and sets -/

theorem takesWhole_readHexEscape (letter : Char) (n : Nat) : TakesWhole first (readHexEscape letter n) :=
  (takesWhole_takeSome _ _).andThen fun _ => .checkBack (.checkBack (.pure _))

theorem takesWhole_readNamedEscape : TakesWhole first readNamedEscape := by
  refine (takesWhole_takeIf _).andThen fun _ => .checkBack ?_
  refine (takesClosed_readName _ _).whole.andThen fun name => ?_
  split
  · exact .pure _
  · exact .failBack

theorem takesWhole_readCodeEscape? (c : Char) : TakesWhole first (readCodeEscape? c) := by
  unfold readCodeEscape?
  split
  · exact .pure _
  · refine .ite ((takesWhole_readHexEscape _ _).andThen fun _ => .pure _) ?_
    refine .ite ((takesWhole_readHexEscape _ _).andThen fun _ => .pure _) ?_
    refine .ite ((takesWhole_readHexEscape _ _).andThen fun _ => .pure _) ?_
    exact .ite (takesWhole_readNamedEscape.andThen fun _ => .pure _) (.pure _)

theorem takesWhole_readSetEscape (c : Char) : TakesWhole first (readSetEscape c) := by
  refine .ite (.pure _) ?_
  split
  · exact .pure _
  · refine (takesWhole_readCodeEscape? c).andThen fun x => ?_
    split
    · exact .pure _
    · refine .ite ((takesWhole_takeSome _ _).andThen fun _ => .checkBack (.pure _)) ?_
      exact .ite .failBack (.pure _)

theorem takesWhole_readAtom (t : Token) : TakesWhole first (readAtom t) := by
  cases t with
  | plain c => exact .pure _
  | escape c => exact takesWhole_readSetEscape c

theorem takesClosed_readItems (start fuel : Nat) (items : List SetItem) :
    TakesClosed first (readItems start fuel items) := by
  induction fuel generalizing items with
  | zero => exact .failAt
  | succ fuel ih =>
    refine .getThen fun r => .takeThenClosed .failAt (fun c => .ite (.pure _) (TakesIn.whole ?_))
      fun c => .iteNot (by simp) ?_
    all_goals
      refine (takesWhole_readAtom _).thenClosed fun low => (takesWhole_takeIf _).thenClosed fun _ => .ite (ih _) ?_
      refine .takeThenClosed .failAt (fun c => .ite (.pure _) (TakesIn.whole ?_)) fun c => .iteNot (by simp) ?_
      all_goals
        refine (takesWhole_readAtom _).thenClosed fun high => ?_
        split
        · exact .checkBack (ih _)
        · exact .failBack

theorem takesWhole_setPart (items : List SetItem) (negated : Bool) : TakesWhole first (setPart items negated) :=
  .getThen fun _ => .pure _

theorem takesWhole_codePart (n : Nat) : TakesWhole first (codePart n) := takesWhole_setPart _ _

theorem takesWhole_groupClosed (index : Nat) : TakesWhole first (groupClosed index) :=
  .ite (.pure _) (.getThen fun _ => .pure _)

theorem takesWhole_checkOuterGroup (index : Nat) : TakesWhole first (checkOuterGroup index) := by
  refine .getThen fun r => ?_
  split
  · exact .pure _
  · exact (takesWhole_groupClosed _).andThen fun _ => .checkBack (.ite .failBack (.pure _))

theorem takesWhole_backReferencePart (index back : Nat) : TakesWhole first (backReferencePart index back) := by
  refine (takesWhole_groupClosed _).andThen fun _ => .checkBack ?_
  exact (takesWhole_checkOuterGroup _).andThen fun _ => .getThen fun _ => .pure _

theorem takesWhole_readNumberEscape (c : Char) : TakesWhole first (readNumberEscape c) := by
  have hindex (digits : Text) : TakesWhole first (do
      if numberIn 10 digits < (← groupCount) then backReferencePart (numberIn 10 digits) (digits.length + 1)
      else Pattern.failBack (.invalidGroup (numberIn 10 digits)) digits.length) :=
    .getThen fun _ => .ite (takesWhole_backReferencePart _ _) .failBack
  refine (takesWhole_takeSome _ _).andThen fun more => .ite ?_ (hindex _)
  refine (takesWhole_takeSome _ _).andThen fun third => .ite (.checkBack (takesWhole_codePart _)) (hindex _)

theorem takesWhole_readEscape (c : Char) : TakesWhole first (readEscape c) := by
  refine .getThen fun r => ?_
  split
  · exact takesWhole_setPart _ _
  · refine .ite (.pure _) (.ite (.pure _) (.ite (.pure _) (.ite (.pure _) ?_)))
    refine (takesWhole_readCodeEscape? c).andThen fun x => ?_
    split
    · exact takesWhole_codePart _
    · refine .ite ((takesWhole_takeSome _ _).andThen fun _ => takesWhole_codePart _) ?_
      exact .ite (takesWhole_readNumberEscape c) (.ite .failBack (takesWhole_codePart _))

/-! ## The start of a parenthesis -/

theorem takesClosed_readFlagsOn (fuel : Nat) (c : Char) (on : Text) : TakesClosed first (readFlagsOn fuel c on) := by
  induction fuel generalizing c on with
  | zero => exact .failBack
  | succ fuel ih =>
    refine .checkBack (.checkBack (.takeThenClosed .failBack (fun d => ?_) fun d => ?_))
    · refine .ite (.pure _) (.ite (.pure _) (.ite (.pure _) ?_))
      split
      · exact (ih _ _).whole
      · exact .failBack
    · refine .iteNot (by simp) (.iteNot (by simp) (.iteNot (by simp) ?_))
      exact .failBack

theorem takesClosed_readFlagsOff (fuel : Nat) (off : Text) : TakesClosed first (readFlagsOff fuel off) := by
  induction fuel generalizing off with
  | zero => exact .failBack
  | succ fuel ih =>
    refine .takeThenClosed .failBack (fun d => ?_) fun d => ?_
    · refine .ite (.pure _) ?_
      split
      · exact .checkBack (ih _).whole
      · exact .failBack
    · exact .iteNot (by simp) .failBack

/-- flags for a group alone leave the modes outside it as they are -/
theorem to_of_readFlags {c : Char} {r s : Reading} {modes : Option Modes} (h : readFlags c r = .ok (modes, s)) :
    ∃ used, Whole used ∧ r.To modes.isNone used s := by
  replace h : (if c = '-' then _ else _ : ReadM (Option Modes)) r = _ := h
  split at h
  all_goals
    obtain ⟨⟨on, stop⟩, r', hon, hok⟩ := bind_eq_ok.1 h
    obtain ⟨used, hwhole, hto⟩ : ∃ used, Whole used ∧ r.To false used r' :=
      (by first | exact TakesIn.pure _ | exact (takesClosed_readFlagsOn _ _ _).whole : TakesWhole false _) r _ r' hon
    obtain ⟨used', hwhole', hto'⟩ : ∃ used', Whole used' ∧ r'.To modes.isNone used' s := by
      dsimp only at hok
      split at hok
      · cases hok
        exact ⟨[], Whole.nil, .of_eq rfl rfl Bool.noConfusion⟩
      · obtain ⟨used', hwhole', hto'⟩ : ∃ used', Whole used' ∧ r'.To false used' s := by
          refine TakesIn.checkBack (.ite ?_ ?_) r' modes s hok
          · exact (takesClosed_readFlagsOff _ _).whole.andThen fun _ => .checkBack (.checkBack (.pure _))
          · exact (TakesIn.pure _).andThen fun _ => .checkBack (.checkBack (.pure _))
        exact ⟨used', hwhole', hto'.weaken⟩
    exact ⟨_, hwhole.append hwhole', hto.weaken.trans hto'⟩

theorem takesWhole_checkGroupName (name : Text) : TakesWhole first (checkGroupName name) :=
  .ite .failBack (.pure _)

theorem takesWhole_openGroup (name : Option Text) : TakesWhole first (openGroup name) := by
  refine .of_still Whole.nil fun r a s hok => ?_
  cases name with
  | none =>
    cases hok
    exact ⟨rfl, rfl, fun _ => rfl⟩
  | some n =>
    obtain ⟨r', r'', hget, hok⟩ := bind_eq_ok.1 hok
    cases hget
    cases hname : r.names.lookup n with
    | none =>
      simp only [hname] at hok
      cases hok
      exact ⟨rfl, rfl, fun _ => rfl⟩
    | some former =>
      simp only [hname] at hok
      cases hok

theorem TakesIn.modify {g : Reading → Reading} (hrest : ∀ r, (g r).rest = r.rest)
    (hdangling : ∀ r, (g r).dangling = r.dangling) (hmodes : first = false → ∀ r, (g r).modes = r.modes) :
    TakesWhole first (modify g : ReadM PUnit) := by
  refine .of_still Whole.nil fun r a s hok => ?_
  cases hok
  exact ⟨hrest r, hdangling r, fun hf => hmodes hf r⟩

theorem takesWhole_closeGroup (index : Nat) (w : Measure) : TakesWhole first (closeGroup index w) :=
  .modify (fun _ => rfl) (fun _ => rfl) fun _ _ => rfl

theorem takesWhole_readNamedReference : TakesWhole first readNamedReference := by
  refine (takesClosed_readName _ _).whole.andThen fun name => (takesWhole_checkGroupName _).andThen fun _ => ?_
  refine .getThen fun r => ?_
  split
  · exact .failBack
  · exact takesWhole_backReferencePart _ _

theorem takesWhole_readCondition : TakesWhole first readCondition := by
  have hindex (name : Text) (index : Nat) : TakesWhole first (do
      if index = 0 then Pattern.failBack .badGroupNumber (name.length + 1)
      if index ≥ groupLimit then Pattern.failBack (.invalidGroup index) (name.length + 1)
      modify fun r => { r with conditions := r.conditions ++ [(index, r.offset - name.length - 1)] }
      checkOuterGroup index
      return index) := by
    refine .checkBack (.checkBack ?_)
    refine TakesIn.andThen (.modify (fun _ => rfl) (fun _ => rfl) fun _ _ => rfl) fun _ => ?_
    exact (takesWhole_checkOuterGroup _).andThen fun _ => .pure _
  refine (takesClosed_readName _ _).whole.andThen fun name => .ite (.getThen fun r => ?_) ?_
  · split
    · exact .failBack
    · exact (takesWhole_checkOuterGroup _).andThen fun _ => .pure _
  · split
    · exact (TakesIn.pure _).andThen fun _ => hindex _ _
    · exact TakesIn.failBack.andThen fun _ => hindex _ _

theorem takesClosed_skipComment (start fuel : Nat) : TakesClosed first (skipComment start fuel) := by
  induction fuel with
  | zero => exact .failAt
  | succ fuel ih =>
    refine .takeThenClosed .failAt (fun c => .ite (.pure _) ih.whole) fun c => .iteNot (by simp) ih

theorem takesWhole_readOpening (start : Nat) (atBeginning : Bool) :
    TakesWhole atBeginning (readOpening start atBeginning) := by
  refine (takesWhole_takeIf _).andThen fun _ => .ite (.pure _) (.takeThen .failBack (fun c => ?_) fun c => .failBack)
  refine .ite ?_ (.ite (.pure _) (.ite ?_ (.ite (.pure _) (.ite (.pure _) (.ite ?_ ?_)))))
  · -- a name, or a back-reference by name
    refine (takesWhole_takeIf _).andThen fun _ => .ite ?_ ?_
    · refine (takesClosed_readName _ _).whole.andThen fun name => ?_
      exact (takesWhole_checkGroupName _).andThen fun _ => .pure _
    · refine (takesWhole_takeIf _).andThen fun _ => .ite (takesWhole_readNamedReference.andThen fun _ => .pure _) ?_
      exact .takeThen .failBack (fun _ => .failBack) fun _ => .failBack
  · exact .getThen fun _ => (takesClosed_skipComment _ _).whole.andThen fun _ => .pure _
  · refine .takeThen .failBack (fun _ => .ite (.pure _) (.ite (.pure _) .failBack)) fun _ => ?_
    exact .iteNot (by simp) (.iteNot (by simp) .failBack)
  refine .ite (takesWhole_readCondition.andThen fun _ => .pure _) (.ite (.pure _) (.ite ?_ .failBack))
  -- flags for the whole pattern change the modes, and are refused where the modes have to stay
  intro r b s hok
  obtain ⟨modes, r', hflags, hok⟩ := bind_eq_ok.1 hok
  obtain ⟨used, hwhole, hto⟩ := to_of_readFlags hflags
  cases modes with
  | some modes =>
    cases hok
    exact ⟨used, hwhole, hto.weaken⟩
  | none =>
    cases atBeginning with
    | false => cases hok
    | true =>
      cases hok
      exact ⟨used, hwhole, hto⟩

/-! ## Sequences and groups -/

theorem takesWhole_readBound (digits : Text) : TakesWhole first (readBound digits) :=
  .checkWhole (.checkWhole (.pure _))

/-- bounds that are not written in full are put back -/
theorem takesWhole_readBounds? : TakesWhole first readBounds? := by
  intro r b s hok
  replace hok : (if r.rest.head? = some (.plain '\x7d') then _ else _ : ReadM (Option (Nat × Option Nat))) r = _ := hok
  split at hok
  · exact TakesIn.pure _ r b s hok
  · obtain ⟨low, r₁, hlow, hok⟩ := bind_eq_ok.1 hok
    obtain ⟨used₁, hwhole₁, hto₁⟩ := takesWhole_takeSome _ _ r low r₁ hlow
    obtain ⟨comma, r₂, hcomma, hok⟩ := bind_eq_ok.1 hok
    obtain ⟨used₂, hwhole₂, hto₂⟩ := takesWhole_takeIf _ r₁ comma r₂ hcomma
    dsimp only at hok
    split at hok
    all_goals
      obtain ⟨high, r₃, hhigh, hok⟩ := bind_eq_ok.1 hok
      obtain ⟨used₃, hwhole₃, hto₃⟩ : ∃ used₃, Whole used₃ ∧ r₂.To first used₃ r₃ :=
        (by first | exact TakesIn.pure _ | exact takesWhole_takeSome _ _ : TakesWhole first _) r₂ high r₃ hhigh
      obtain ⟨closed, r₄, hclosed, hok⟩ := bind_eq_ok.1 hok
      obtain ⟨used₄, hwhole₄, hto₄⟩ := takesWhole_takeIf _ r₃ closed r₄ hclosed
      split at hok
      · cases hok
        exact ⟨[], Whole.nil, .refl r⟩
      · obtain ⟨used₅, hwhole₅, hto₅⟩ : ∃ used₅, Whole used₅ ∧ r₄.To first used₅ s := by
          refine TakesIn.andThen (takesWhole_readBound _) (fun _ => .ite (.pure _) ?_) r₄ b s hok
          exact (takesWhole_readBound _).andThen fun _ => .checkAt (.pure _)
        exact ⟨_, (((hwhole₁.append hwhole₂).append hwhole₃).append hwhole₄).append hwhole₅,
          (((hto₁.trans hto₂).trans hto₃).trans hto₄).trans hto₅⟩

theorem takesWhole_quantify (start least : Nat) (most : Option Nat) (items : List Item) :
    TakesWhole first (quantify start least most items) := by
  unfold quantify
  split
  · exact .failAt
  · split
    · exact .failAt
    · exact .failAt
    · refine .getThen fun r => (takesWhole_takeIf _).andThen fun _ => .ite (.pure _) ?_
      exact (takesWhole_takeIf _).andThen fun _ => .ite (.pure _) (.pure _)

theorem takes_skipLine (fuel : Nat) : Takes first (skipLine fuel) := by
  induction fuel with
  | zero => exact (TakesIn.pure _).takes
  | succ fuel ih =>
    refine takes_take.andThenTakes fun t => ?_
    split
    · exact (TakesIn.pure _).takes
    · exact .ite (TakesIn.pure _).takes ih

section Step

variable {fuel : Nat} (hsequence : ∀ b items, Takes b (readSequence fuel b items))
  (halternatives : ∀ b, Takes b (readAlternatives fuel b))

include hsequence halternatives in
theorem takes_readAlternatives_succ (b : Bool) : Takes b (readAlternatives (fuel + 1) b) := by
  refine (hsequence b []).andThenTakes fun (p, v) => (takesWhole_takeIf _).andThenTakes fun _ => ?_
  exact .ite ((halternatives false).weaken.andThenTakes fun _ => (TakesIn.pure _).takes) (TakesIn.pure _).takes

include hsequence in
theorem takes_readSequence_succ (hpart : ∀ start b c items, Takes b (readPart fuel start b c items)) (b : Bool)
    (items : List Item) : Takes b (readSequence (fuel + 1) b items) := by
  refine .getThen fun r => .peekThen fun next => .ite (TakesIn.pure _).takes ?_
  refine takes_take.andThenTakes fun t => ?_
  split
  · exact (TakesIn.pure _).takes
  · exact (takesWhole_readEscape _).andThenTakes fun _ => hsequence b _
  · exact (hpart _ _ _ _).andThenTakes fun _ => hsequence b _

/-- only the comment of a verbose pattern can end in an escape -/
theorem to_of_readPart_succ (hgroup : ∀ start opening, TakesWhole false (readGroup fuel start opening))
    {start : Nat} {b : Bool} {c : Char} {items items' : List Item} {r s : Reading}
    (h : readPart (fuel + 1) start b c items r = .ok (items', s)) :
    ∃ used, (r.modes.verbose = false → Whole used) ∧ r.To (b && items.isEmpty) used s := by
  replace h : (if r.modes.verbose && verboseBlanks.contains c then _ else _ : ReadM (List Item)) r = _ := h
  obtain ⟨-, h⟩ | ⟨-, h⟩ := cases_of_ite h
  · cases h
    exact ⟨[], fun _ => Whole.nil, .refl r⟩
  obtain ⟨hverbose, h⟩ | ⟨-, h⟩ := cases_of_ite h
  · obtain ⟨used, -, hto⟩ := TakesIn.getThen (fun _ => (takes_skipLine _).andThenTakes fun _ => (TakesIn.pure _).takes)
      r items' s h
    rw [Bool.and_eq_true] at hverbose
    exact ⟨used, fun hv => absurd (hverbose.1.symm.trans hv) Bool.noConfusion, hto⟩
  · have hquantify (least : Nat) (most : Option Nat) :
        TakesWhole (b && items.isEmpty) (quantify start least most items) := takesWhole_quantify _ _ _ _
    have hcode : TakesWhole (b && items.isEmpty) (do return (← codePart c.toNat) :: items) :=
      (takesWhole_codePart _).andThen fun _ => .pure _
    obtain ⟨used, hwhole, hto⟩ : ∃ used, Whole used ∧ r.To (b && items.isEmpty) used s := by
      refine TakesIn.ite ?_ (.ite ?_ (.ite (hquantify _ _) (.ite (hquantify _ _) (.ite (hquantify _ _) (.ite ?_
        (.ite (.pure _) (.ite (.pure _) (.ite (.pure _) hcode)))))))) r items' s h
      · refine (takesWhole_readOpening _ _).andThen fun opening => ?_
        split
        · exact .pure _
        · exact .pure _
        · exact (hgroup _ _).weaken.andThen fun _ => .pure _
      · refine (takesWhole_takeIf _).andThen fun _ => .getThen fun _ => ?_
        refine (takesClosed_readItems _ _ _).whole.andThen fun _ => (takesWhole_setPart _ _).andThen fun _ => .pure _
      · refine takesWhole_readBounds?.andThen fun bounds => ?_
        split
        · exact hquantify _ _
        · exact hcode
    exact ⟨used, fun _ => hwhole, hto⟩

include hsequence halternatives in
/-- what is not complete after its start ends with the closing parenthesis -/
theorem takesWhole_readGroup_succ (start : Nat) (opening : Opening) :
    TakesWhole false (readGroup (fuel + 1) start opening) := by
  have hclose {m : ReadM Item} (hm : TakesWhole false m) : TakesClosed false (expectClose start >>= fun _ => m) :=
    (takesClosed_expectClose start).closedThen fun _ => hm
  match opening with
  | .complete item => exact .pure _
  | .capturing name =>
    refine (takesWhole_openGroup _).andThen fun index => TakesIn.whole ?_
    refine (halternatives false).thenClosed fun (p, w) => hclose ?_
    exact (takesWhole_closeGroup _ _).andThen fun _ => .pure _
  | .bare => exact ((halternatives false).thenClosed fun (p, w) => hclose (.pure _)).whole
  | .atomic => exact ((halternatives false).thenClosed fun (p, w) => hclose (.pure _)).whole
  | .scoped inner =>
    -- the modes change and change back, so they are followed state by state
    intro r item s hok
    obtain ⟨r, r₁, hget, hok⟩ := bind_eq_ok.1 hok
    cases hget
    obtain ⟨_, r₂, hinner, hok⟩ := bind_eq_ok.1 hok
    cases hinner
    obtain ⟨⟨p, w⟩, r₃, halternatives', hok⟩ := bind_eq_ok.1 hok
    obtain ⟨used, -, hto⟩ := halternatives false _ _ r₃ halternatives'
    obtain ⟨_, r₄, houter, hok⟩ := bind_eq_ok.1 hok
    cases houter
    obtain ⟨used', hclosed, hto'⟩ := hclose (.pure _) _ item s hok
    have hrestored : r.To false used { r₃ with modes := r.modes } :=
      ⟨hto.rest_eq, hto.dangling_eq, hto.rest_ne_nil, fun _ => rfl⟩
    exact ⟨_, (hclosed.append used).whole, hrestored.trans hto'⟩
  | .look false negated => exact ((halternatives false).thenClosed fun (p, w) => hclose (.pure _)).whole
  | .look true negated =>
    refine .getThen fun r => .getThen fun r => ?_
    refine TakesIn.andThen (.modify (fun _ => rfl) (fun _ => rfl) fun _ _ => rfl) fun _ => TakesIn.whole ?_
    refine (halternatives false).thenClosed fun (p, w) => ?_
    exact TakesIn.thenClosed (.modify (fun _ => rfl) (fun _ => rfl) fun _ _ => rfl) fun _ => hclose (.pure _)
  | .conditional index =>
    have hend (x y : Pattern × Measure) : TakesClosed false (do
        if (← peek) = some (.plain '|') then Pattern.failBack .tooManyBranches 0
        expectClose start
        return (⟨.ifGroup index x.1 y.1, x.2.either y.2, .other⟩ : Item)) :=
      .peekThen fun _ => .checkBack (hclose (.pure _))
    refine TakesIn.whole ((hsequence false []).thenClosed fun (p, v) => ?_)
    refine (takesWhole_takeIf _).thenClosed fun _ => .ite ?_ ?_
    · exact (hsequence false []).thenClosed fun (q, w) => hend (p, v) (q, w)
    · exact TakesIn.thenClosed (.pure _) fun (q, w) => hend (p, v) (q, w)

end Step

/-- **what reading takes**: everything up to where it stops, and parts end where nothing but an escape begins -/
theorem takes_of_reading (fuel : Nat) :
    (∀ b, Takes b (readAlternatives fuel b)) ∧ (∀ b items, Takes b (readSequence fuel b items)) ∧
      (∀ {start b c items items' r s}, readPart fuel start b c items r = .ok (items', s) →
        ∃ used, (r.modes.verbose = false → Whole used) ∧ r.To (b && items.isEmpty) used s) ∧
      ∀ start opening, TakesWhole false (readGroup fuel start opening) := by
  induction fuel with
  | zero =>
    refine ⟨fun b => (TakesIn.pure _).takes, fun b items => (TakesIn.pure _).takes, ?_, fun start opening => .failAt⟩
    intro start b c items items' r s h
    cases h
    exact ⟨[], fun _ => Whole.nil, .refl r⟩
  | succ fuel ih =>
    obtain ⟨halternatives, hsequence, hpart, hgroup⟩ := ih
    refine ⟨takes_readAlternatives_succ hsequence halternatives, takes_readSequence_succ hsequence ?_,
      to_of_readPart_succ hgroup, takesWhole_readGroup_succ hsequence halternatives⟩
    intro start b c items r items' s h
    obtain ⟨used, -, hto⟩ := hpart h
    exact ⟨used, trivial, hto.mono fun hb => by rw [hb, Bool.false_and]⟩

/-! ## One more part -/

section Part

variable {fuel : Nat} {b : Bool} {items : List Item} {r : Reading}

/-- at the end of the text a sequence is what was read so far -/
theorem readSequence_end (hrest : r.rest = []) : readSequence fuel b items r = .ok (sequenceOf items, r) := by
  cases fuel with
  | zero => rfl
  | succ fuel =>
    show (if r.rest.head? = some (.plain '|') || r.rest.head? = some (.plain ')') then _ else _ : ReadM _) r = _
    rw [hrest, if_neg (by decide), bind_of_ok (take_nil hrest)]
    rfl

/-- a word boundary becomes the last part, when no flags are on -/
theorem readSequence_boundary {left : List Token} (hrest : r.rest = .escape 'b' :: left) (hdangling : r.dangling = false)
    (hmodes : r.modes = {}) :
    readSequence (fuel + 1) b items r =
      readSequence fuel b (⟨wordBoundary, .zero, .anchor⟩ :: items) { r with rest := left, offset := r.offset + 2 } := by
  have htake : take r = .ok (some (.escape 'b'), { r with rest := left, offset := r.offset + 2 }) := by
    rw [take_cons hrest, hdangling, Bool.and_false, if_neg Bool.noConfusion]
    rfl
  show (if r.rest.head? = some (.plain '|') || r.rest.head? = some (.plain ')') then _ else _ : ReadM _) r = _
  rw [hrest, if_neg (by simp), bind_of_ok htake]
  obtain ⟨pattern, rest, dangling, offset, modes, groups, names, outerGroups, conditions, flags⟩ := r
  obtain rfl : modes = {} := hmodes
  rfl

end Part

/-! ## The whole pattern -/

/-- the tokens of a text that does not end in a lone backslash stay as they are when more text comes -/
theorem tokens_append {s : Text} (h : (tokens s).2 = false) (t : Text) :
    tokens (s ++ t) = ((tokens s).1 ++ (tokens t).1, (tokens t).2) := by
  fun_induction tokens s with
  | case1 => rfl
  | case2 => cases h
  | case3 c rest ih =>
    rw [List.cons_append, List.cons_append, tokens, ih h]
    rfl
  | case4 c rest hlone hpair ih =>
    have hc : c ≠ '\\' := by
      rintro rfl
      cases rest with
      | nil => exact hlone rfl rfl
      | cons d rest => exact hpair d rest rfl rfl
    rw [List.cons_append, tokens.eq_4 _ _ (fun heq _ => hc heq) fun _ _ heq _ => hc heq, ih h]
    rfl

/-- the state before a text is read -/
def reading (t : Text) : Reading := { pattern := t, rest := (tokens t).1, dangling := (tokens t).2 }

/-- a pattern is made of alternatives up to the end of its text -/
theorem alternatives_of_read {t : Text} {p : Pattern} (h : read t = .ok p) :
    ((reading t).rest.isEmpty && (reading t).dangling) = false ∧
      ∃ w s, readAlternatives (3 * (tokens t).1.length + 3) true (reading t) = .ok ((p, w), s) ∧ s.rest = [] := by
  obtain ⟨s, h⟩ : ∃ s, readWhole (reading t) = .ok (p, s) := by
    obtain ⟨⟨q, s⟩, hwhole, rfl⟩ := map_eq_ok_iff.1 (show (readWhole (reading t)).map Prod.fst = .ok p from h)
    exact ⟨s, hwhole⟩
  obtain ⟨_, r, hdangling, h⟩ := bind_eq_ok.1 h
  obtain ⟨hempty, rfl⟩ : ((reading t).rest.isEmpty && (reading t).dangling) = false ∧ reading t = r := by
    replace hdangling : (if (reading t).rest.isEmpty && (reading t).dangling then _ else _ : ReadM Unit) (reading t) = _ :=
      hdangling
    obtain ⟨-, hdangling⟩ | ⟨hempty, hdangling⟩ := cases_of_ite hdangling
    · cases hdangling
    · cases hdangling
      exact ⟨Bool.not_eq_true _ ▸ hempty, rfl⟩
  rw [get_then] at h
  obtain ⟨⟨q, w⟩, r, halternatives, h⟩ := bind_eq_ok.1 h
  obtain ⟨-, h⟩ | ⟨-, h⟩ := cases_of_ite h
  · cases h
  obtain ⟨-, h⟩ | ⟨hrest, h⟩ := cases_of_ite h
  · cases h
  rw [get_then] at h
  generalize List.find? _ r.conditions = found at h
  cases found with
  | some condition => cases h
  | none =>
    obtain ⟨least, most, lack⟩ := w
    cases lack with
    | some cause => cases h
    | none =>
      cases h
      exact ⟨hempty, _, s, halternatives, by simpa using hrest⟩

/-- a text that ends in a lone backslash is no pattern -/
theorem dangling_of_read {t : Text} {p : Pattern} (h : read t = .ok p) : (tokens t).2 = false := by
  obtain ⟨hempty, w, s, halternatives, hrest⟩ := alternatives_of_read h
  obtain ⟨used, -, hto⟩ := (takes_of_reading _).1 true _ _ s halternatives
  cases hdangling : (tokens t).2 with
  | false => rfl
  | true =>
    have hused : used ≠ [] := by
      rintro rfl
      rw [← List.isEmpty_iff, ← List.nil_append s.rest, ← hto.rest_eq] at hrest
      rw [hrest, show (reading t).dangling = true from hdangling] at hempty
      cases hempty
    exact absurd hrest (hto.rest_ne_nil hdangling hused)

end Linewise.Pattern
