/-
Numbers and the values of settings read back.

Settings are texts, lists of texts and whole numbers that are not negative (`Value.IsSetting`); a number that is too long
is not read, so it is no setting here. `readWhole_inline` reads each of them back from its one line.
-/
import Linewise.Proofs.Toml.Strings
import Linewise.Toml.Nested

namespace Linewise

/-! ## Digits -/

/-- a decimal digit is nothing else that the reader of numbers looks for -/
theorem digit_facts {c : Char} (h : c.isDigit = true) :
    Toml.endsNumber c = false ∧ Integer.isMargin c = false ∧ c.toLower = c ∧
      decimalDigit? c = some (c.toNat - '0'.toNat) := by
  have hascii : c.toNat < 128 := by
    have hnine : '9'.toNat = 57 := rfl
    have := (Char.isDigit_iff_toNat.1 h).2
    omega
  exact Toml.forall_of_ascii
    (fun c => c.isDigit = true → Toml.endsNumber c = false ∧ Integer.isMargin c = false ∧ c.toLower = c ∧
      decimalDigit? c = some (c.toNat - '0'.toNat)) (by decide +kernel) hascii h

theorem isDigit_of_mem_ofNat {n : Nat} : ∀ c ∈ Text.ofNat n, c.isDigit = true := fun _ hc =>
  Nat.isDigit_of_mem_toDigits (by decide) (by decide) hc

theorem head?_toDigits {n : Nat} (h : 0 < n) : (Nat.toDigits 10 n).head? ≠ some '0' := by
  induction n using Nat.strongRecOn with
  | ind n ih =>
    by_cases hlow : n < 10
    · rw [Nat.toDigits_of_lt_base hlow]
      have hall : ∀ n < 10, 0 < n → [Nat.digitChar n].head? ≠ some '0' := by decide
      exact hall n hlow h
    · have hne : Nat.toDigits 10 (n / 10) ≠ [] := Nat.toDigits_ne_nil
      rw [Nat.toDigits_of_base_le (by decide) (Nat.le_of_not_lt hlow)]
      cases hdigits : Nat.toDigits 10 (n / 10) with
      | nil => exact absurd hdigits hne
      | cons c rest =>
        have := ih (n / 10) (by omega) (by omega)
        rwa [hdigits] at this

section

variable {t : Text} (hdigits : ∀ c ∈ t, c.isDigit = true)
include hdigits

theorem notMem_of_digits {c : Char} (h : c.isDigit = false) : c ∉ t := by
  intro hmem
  rw [hdigits c hmem] at h
  cases h

theorem readDecimal?_digits (n : Nat) : readDecimal? n t = some (Nat.ofDigitChars 10 t n) := by
  induction t generalizing n with
  | nil => rfl
  | cons c rest ih =>
    obtain ⟨-, -, -, hvalue⟩ := digit_facts (hdigits c List.mem_cons_self)
    rw [readDecimal?, hvalue, Option.bind_some, ih fun d hd => hdigits d (List.mem_cons_of_mem c hd),
      Nat.ofDigitChars_cons, Nat.mul_comm]

theorem splitOn_digits : Text.splitOn '_' t = [t] := by
  induction t with
  | nil => rfl
  | cons c rest ih =>
    have hc : c ≠ '_' := by
      rintro rfl
      exact absurd (hdigits '_' List.mem_cons_self) (by decide)
    rw [Text.splitOn, if_neg hc, ih fun d hd => hdigits d (List.mem_cons_of_mem c hd)]

theorem withoutMargins_digits : Integer.withoutMargins t = t := by
  have hmargin : ∀ c ∈ t, Integer.isMargin c = false := fun c hc => (digit_facts (hdigits c hc)).2.1
  have hstart : t.dropWhile Integer.isMargin = t :=
    List.dropWhile_eq_self_iff.2 fun _ => by simp [hmargin]
  have hend : Text.dropEndWhile Integer.isMargin (t ++ []) = t := Toml.dropEndWhile_append hmargin (by simp)
  rw [Integer.withoutMargins, hstart]
  rwa [List.append_nil] at hend

/-- digits that are not too many are read as a number -/
theorem Integer.read?_digits (hne : t ≠ []) (hlength : t.length ≤ maxDigits) :
    Integer.read? t = some (Nat.ofDigitChars 10 t 0) := by
  have hread : Integer.readDigits? t = some (Nat.ofDigitChars 10 t 0) := by
    have hempty : ¬ [t].any List.isEmpty = true := by simpa using hne
    rw [Integer.readDigits?, Integer.withoutUnderscores?, splitOn_digits hdigits, if_neg hempty, Option.bind_some,
      List.flatten_singleton, if_neg (Nat.not_lt.2 hlength), readDecimal?_digits hdigits]
  rw [Integer.read?, Integer.readSigned?, withoutMargins_digits hdigits]
  split
  · exact absurd List.mem_cons_self (notMem_of_digits hdigits (by decide))
  · exact absurd List.mem_cons_self (notMem_of_digits hdigits (by decide))
  · rw [hread]
    rfl

end

namespace Toml

/-! ## Numbers -/

theorem dropUnderscores_of_notMem {p : Char → Bool} {before : Option Char} {t : Text} (h : '_' ∉ t) :
    dropUnderscores p before t = t := by
  induction t generalizing before with
  | nil => rfl
  | cons c rest ih =>
    obtain ⟨hc, hrest⟩ := not_or.1 (mt List.mem_cons.2 h)
    have hne : c ≠ '_' := fun heq => hc heq.symm
    rw [dropUnderscores, ih hrest]
    intro heq
    exact hne heq

theorem expect?_of_notMem {c : Char} {t : Text} (h : c ∉ t) : expect? c t = none := by
  cases t with
  | nil => rfl
  | cons d rest =>
    have hne : d ≠ c := fun heq => h (heq ▸ List.mem_cons_self)
    rw [expect?, if_neg hne]

theorem fixedDigits?_eq_some {n d : Nat} {t rest : Text} (h : fixedDigits? n t = some (d, rest)) :
    rest = t.drop n := by
  simp only [fixedDigits?] at h
  split at h
  · obtain ⟨e, -, he⟩ := Option.map_eq_some_iff.1 h
    exact (Prod.mk.inj he).2.symm
  · cases h

section

variable {t : Text} (hdigits : ∀ c ∈ t, c.isDigit = true)
include hdigits

/-- digits alone are neither a date nor a time of day -/
theorem looksLikeMoment_digits : looksLikeMoment t = false := by
  have hdash (n : Nat) : '-' ∉ t.drop n := fun h => notMem_of_digits hdigits (by decide) (List.mem_of_mem_drop h)
  have hcolon (n : Nat) : ':' ∉ t.drop n := fun h => notMem_of_digits hdigits (by decide) (List.mem_of_mem_drop h)
  have hday : readDay? t = none := by
    rw [readDay?]
    cases hyear : fixedDigits? 4 t with
    | none => rfl
    | some found =>
      obtain ⟨year, rest⟩ := found
      rw [fixedDigits?_eq_some hyear]
      show (expect? '-' (t.drop 4)).bind _ = none
      rw [expect?_of_notMem (hdash 4)]
      rfl
  have hclock : readClock? t = none := by
    rw [readClock?]
    cases hhour : fixedDigits? 2 t with
    | none => rfl
    | some found =>
      obtain ⟨hour, rest⟩ := found
      rw [fixedDigits?_eq_some hhour]
      show (expect? ':' (t.drop 2)).bind _ = none
      rw [expect?_of_notMem (hcolon 2)]
      rfl
  rw [looksLikeMoment, hday, hclock]
  rfl

/-- digits alone are no number of another base -/
theorem markedBase?_digits : markedBase? t = none := by
  unfold markedBase?
  split
  · exact absurd (List.mem_cons_of_mem _ List.mem_cons_self) (notMem_of_digits hdigits (by decide))
  · exact absurd (List.mem_cons_of_mem _ List.mem_cons_self) (notMem_of_digits hdigits (by decide))
  · exact absurd (List.mem_cons_of_mem _ List.mem_cons_self) (notMem_of_digits hdigits (by decide))
  · rfl

theorem readDecimalNumber?_digits (hne : t ≠ []) (hlength : t.length ≤ maxDigits) :
    readDecimalNumber? [] t = some (.int (Nat.ofDigitChars 10 t 0)) := by
  have hunderscore : '_' ∉ t := notMem_of_digits hdigits (by decide)
  have hlower : t.map Char.toLower = t := by
    rw [List.map_congr_left (g := id) fun c hc => (digit_facts (hdigits c hc)).2.2.1, List.map_id]
  have hclean : (dropUnderscores Char.isDigit none t).map Char.toLower = t := by
    rw [dropUnderscores_of_notMem hunderscore, hlower]
  have hpoint : t.getLast? ≠ some '.' := fun hlast =>
    notMem_of_digits hdigits (by decide) (List.mem_of_getLast? hlast)
  have hmantissa : t.takeWhile (· != 'e') = t :=
    List.takeWhile_eq_self_iff.2 fun c hc => by
      simpa using fun heq : c = 'e' => notMem_of_digits hdigits (by decide) (heq ▸ hc)
  simp [readDecimalNumber?, hclean, hmantissa, hunderscore, hpoint, Integer.read?_digits hdigits hne hlength]

end

/-- a number is not written with a zero before further digits -/
theorem zeroMayStand_ofNat (n : Nat) : zeroMayStand (Text.ofNat n) = true := by
  by_cases hn : 0 < n
  · have hhead : (Text.ofNat n).head? ≠ some '0' := head?_toDigits hn
    unfold zeroMayStand
    split
    · rename_i heq
      rw [heq] at hhead
      exact absurd rfl hhead
    · rfl
  · rw [Nat.eq_zero_of_not_pos hn]
    rfl

theorem readNumber?_ofNat {n : Nat} (h : (Text.ofNat n).length ≤ maxDigits) :
    readNumber? (Text.ofNat n) = some (.int n) := by
  have hdigits := isDigit_of_mem_ofNat (n := n)
  have hvalue : Nat.ofDigitChars 10 (Text.ofNat n) 0 = n := Nat.ofDigitChars_toDigits (by decide) (by decide)
  have hsign : ∀ c : Char, c.isDigit = false → (Text.ofNat n).head? ≠ some c := fun c hc hhead =>
    notMem_of_digits hdigits hc (List.mem_of_head? hhead)
  rw [readNumber?, if_neg (by simp [hsign])]
  simp [zeroMayStand_ofNat, markedBase?_digits hdigits, readDecimalNumber?_digits hdigits Nat.toDigits_ne_nil h,
    hvalue]

/-! ## Values -/

/-- a number ends with its line -/
theorem readDigitValue_ofNat {n : Nat} (h : (Text.ofNat n).length ≤ maxDigits) (rest : Text) :
    readDigitValue (Text.ofNat n ++ '\n' :: rest) = .ok (.int n, '\n' :: rest) := by
  have hdigits := isDigit_of_mem_ofNat (n := n)
  let inside : Char → Bool := fun c => !endsNumber c
  have hfront : ∀ c ∈ Text.ofNat n, inside c = true := fun c hc => by
    simp [inside, (digit_facts (hdigits c hc)).1]
  have hstops : ¬ inside '\n' = true := by decide
  have htake : (Text.ofNat n ++ '\n' :: rest).takeWhile inside = Text.ofNat n := by
    rw [List.takeWhile_append_of_pos hfront, List.takeWhile_cons_of_neg hstops, List.append_nil]
  have hdrop : (Text.ofNat n ++ '\n' :: rest).dropWhile inside = '\n' :: rest := by
    rw [List.dropWhile_append_of_pos hfront, List.dropWhile_cons_of_neg hstops]
  simp only [inside] at htake hdrop
  simp only [readDigitValue, htake, hdrop, looksLikeMoment_digits hdigits, readNumber?_ofNat h]
  rfl

/-- nothing but a number begins with a digit -/
theorem readValue_digit {c : Char} (h : c.isDigit = true) (fuel levels : Nat) (rest : Text) :
    readValue (fuel + 1) levels (c :: rest) = readDigitValue (c :: rest) := by
  have hother : ∀ d : Char, d.isDigit = false → c ≠ d := by
    rintro d hd rfl
    rw [hd] at h
    cases h
  have hword : ∀ word : Text, word.head?.any Char.isDigit = false →
      (c :: rest).takeWhile (fun d => !endsNumber d) ≠ word := by
    rintro word hword rfl
    rw [List.takeWhile_cons_of_pos (by simp [(digit_facts h).1])] at hword
    rw [List.head?_cons, Option.any_some, h] at hword
    cases hword
  have hquotes : ¬ (decide (c = '"') || decide (c = '\'')) = true := by
    simp [hother '"' (by decide), hother '\'' (by decide)]
  have hbrackets : ¬ (decide (c = '[') || decide (c = '\x7b')) = true := by
    simp [hother '[' (by decide), hother '\x7b' (by decide)]
  have hsigns : ¬ (decide (c = '+') || decide (c = '-')) = true := by
    simp [hother '+' (by decide), hother '-' (by decide)]
  have hwords : ¬ (decide ((c :: rest).takeWhile (fun d => !endsNumber d) = "inf".toList) ||
      decide ((c :: rest).takeWhile (fun d => !endsNumber d) = "nan".toList)) = true := by
    simp only [Bool.or_eq_true, decide_eq_true_eq, not_or]
    exact ⟨hword _ (by decide), hword _ (by decide)⟩
  cases levels <;>
    rw [readValue, if_neg hquotes, if_neg (hother 't' (by decide)), if_neg (hother 'f' (by decide)), if_neg hbrackets,
      if_neg hsigns] <;>
    simp only [if_neg hwords, if_pos h]

theorem readValue_ofNat {n : Nat} (h : (Text.ofNat n).length ≤ maxDigits) (fuel levels : Nat) (rest : Text) :
    readValue (fuel + 1) levels (Text.ofNat n ++ '\n' :: rest) = .ok (.int n, '\n' :: rest) := by
  have hread := readDigitValue_ofNat h rest
  obtain ⟨c, cs, hcs⟩ : ∃ c cs, Text.ofNat n = c :: cs := List.exists_cons_of_ne_nil Nat.toDigits_ne_nil
  have hc : c.isDigit = true := isDigit_of_mem_ofNat c (hcs ▸ List.mem_cons_self)
  rw [hcs, List.cons_append] at hread ⊢
  rw [readValue_digit hc, hread]

theorem readValue_basicString (t : Text) (fuel levels : Nat) {rest : Text} (h : rest.head? ≠ some '"') :
    readValue (fuel + 1) levels (basicString t ++ rest) = .ok (.text t, rest) := by
  have hread := readString_basicString t h
  show readValue (fuel + 1) levels ('"' :: (t.flatMap escapeChar ++ ['"'] ++ rest)) = _
  change readString '"' ('"' :: (t.flatMap escapeChar ++ ['"'] ++ rest)) = _ at hread
  cases levels <;> rw [readValue, if_pos (by decide), hread] <;> rfl

/-! ## Lists -/

theorem skipBetween_cons {c : Char} (rest : Text) (hfold : isFold c = false) (hcomment : c ≠ '#') :
    skipBetween false (c :: rest) = .ok (c :: rest) := by
  rw [skipBetween, if_neg (by simp [hfold]), if_neg hcomment]

/-- what stands between the first item of a list and the closing bracket -/
def furtherItems (ts : List Text) : Text := ts.flatMap fun t => ", ".toList ++ basicString t

/-- what follows an item of a list begins with no quote -/
theorem head?_furtherItems (ts : List Text) (rest : Text) : (furtherItems ts ++ ']' :: rest).head? ≠ some '"' := by
  cases ts <;> simp [furtherItems]

section

variable (levels : Nat) (items : List Value) (rest : Text)

/-- the item that comes next in a list of texts is read -/
theorem readItems_basicString (t : Text) {fuel : Nat} (h : rest.head? ≠ some '"') :
    readItems (fuel + 2) levels false items (basicString t ++ rest) =
      readItems (fuel + 1) levels true (.text t :: items) rest := by
  have hread := readValue_basicString t fuel levels h
  have hskip : skipBetween false (basicString t ++ rest) = .ok (basicString t ++ rest) :=
    skipBetween_cons _ (by decide) (by decide)
  obtain ⟨after, hafter⟩ : ∃ after, basicString t ++ rest = '"' :: after := ⟨_, rfl⟩
  rw [hafter] at hread hskip ⊢
  rw [readItems, hskip, ok_bind]
  simp [hread]

theorem readItems_furtherItems (ts : List Text) {fuel : Nat} (h : 2 * ts.length < fuel) :
    readItems fuel levels true items (furtherItems ts ++ ']' :: rest) =
      .ok (.list (items.reverse ++ ts.map .text), rest) := by
  induction ts generalizing fuel items with
  | nil =>
    obtain ⟨fuel, rfl⟩ := Nat.exists_eq_add_one.2 (Nat.zero_lt_of_lt h)
    rw [furtherItems, List.flatMap_nil, List.nil_append, readItems, skipBetween_cons _ (by decide) (by decide),
      List.map_nil, List.append_nil]
    rfl
  | cons t ts ih =>
    -- a comma, a space and the item take two steps
    obtain ⟨fuel, rfl⟩ : ∃ f, fuel = f + 3 := ⟨fuel - 3, by rw [List.length_cons] at h; omega⟩
    have hcomma : readItems (fuel + 3) levels true items (furtherItems (t :: ts) ++ ']' :: rest) =
        readItems (fuel + 2) levels false items (' ' :: (basicString t ++ (furtherItems ts ++ ']' :: rest))) := by
      have hstart : furtherItems (t :: ts) ++ ']' :: rest =
          ',' :: ' ' :: (basicString t ++ (furtherItems ts ++ ']' :: rest)) := by
        simp [furtherItems]
      rw [hstart, readItems, skipBetween_cons _ (by decide) (by decide)]
      rfl
    have hspace : readItems (fuel + 2) levels false items (' ' :: (basicString t ++ (furtherItems ts ++ ']' :: rest))) =
        readItems (fuel + 2) levels false items (basicString t ++ (furtherItems ts ++ ']' :: rest)) := by
      rw [readItems, readItems]
      rfl
    rw [hcomma, hspace, readItems_basicString levels items _ t (head?_furtherItems ts rest),
      ih (.text t :: items) (by rw [List.length_cons] at h; omega)]
    simp

end

/-- the items of a list of texts are the strings -/
theorem inline_texts (ts : List Text) :
    inline (.list (ts.map .text)) = ['['] ++ Text.join ", " (ts.map basicString) ++ [']'] := by
  have hitems : inlineItems (ts.map .text) = ts.map basicString := by
    induction ts with
    | nil => rfl
    | cons t ts ih => simp [inlineItems, inline, ih]
  rw [inline, hitems]

theorem join_cons (t : Text) (ts : List Text) :
    Text.join ", " ((t :: ts).map basicString) = basicString t ++ furtherItems ts := by
  induction ts generalizing t with
  | nil => simp [Text.join, furtherItems]
  | cons u us ih =>
    have hnext := ih u
    simp only [Text.join, List.map_cons] at hnext ⊢
    rw [List.intercalate_cons_cons, hnext]
    simp [furtherItems]

theorem readValue_texts (ts : List Text) {fuel : Nat} (levels : Nat) (rest : Text) (h : 2 * ts.length + 1 < fuel) :
    readValue fuel (levels + 1) (inline (.list (ts.map .text)) ++ rest) = .ok (.list (ts.map .text), rest) := by
  obtain ⟨fuel, rfl⟩ : ∃ f, fuel = f + 1 := ⟨fuel - 1, by omega⟩
  have hopen (more : Text) : readValue (fuel + 1) (levels + 1) ('[' :: more) = readItems fuel levels false [] more := by
    rw [readValue]
    rfl
  cases ts with
  | nil =>
    obtain ⟨fuel, rfl⟩ : ∃ f, fuel = f + 1 := ⟨fuel - 1, by simp at h; omega⟩
    show readValue (fuel + 1 + 1) (levels + 1) ('[' :: ']' :: rest) = _
    rw [hopen, readItems, skipBetween_cons _ (by decide) (by decide)]
    rfl
  | cons t ts =>
    rw [List.length_cons] at h
    obtain ⟨fuel, rfl⟩ : ∃ f, fuel = f + 2 := ⟨fuel - 2, by omega⟩
    have hstart : inline (.list ((t :: ts).map .text)) ++ rest =
        '[' :: (basicString t ++ (furtherItems ts ++ ']' :: rest)) := by
      rw [inline_texts, join_cons]
      simp
    rw [hstart, hopen, readItems_basicString levels [] _ t (head?_furtherItems ts rest),
      readItems_furtherItems levels [.text t] rest ts (by omega)]
    rfl

theorem length_le_furtherItems (ts : List Text) : ts.length ≤ (furtherItems ts).length := by
  induction ts with
  | nil => exact Nat.le_refl 0
  | cons t ts ih =>
    rw [furtherItems, List.flatMap_cons, List.length_append, List.length_append, List.length_cons]
    have hcomma : ", ".toList.length = 2 := rfl
    rw [furtherItems] at ih
    omega

theorem length_le_inline_texts (ts : List Text) : ts.length ≤ (inline (.list (ts.map .text))).length := by
  cases ts with
  | nil => exact Nat.zero_le _
  | cons t ts =>
    have hlength := length_le_furtherItems ts
    rw [inline_texts, join_cons]
    simp only [List.length_append, List.length_cons, List.length_nil]
    omega

end Toml

/-! ## Settings -/

/-- a text, a list of texts, or a whole number that is short enough to be read -/
inductive Value.IsSetting : Value → Prop where
  | text (t : Text) : IsSetting (.text t)
  | texts (ts : List Text) : IsSetting (.list (ts.map .text))
  | number {n : Nat} (h : (Text.ofNat n).length ≤ maxDigits) : IsSetting (.int n)

namespace Value.IsSetting

variable {v : Value} (h : v.IsSetting)
include h

theorem isSection_eq_false : v.isSection = false := by
  cases h with
  | text t => rfl
  | texts ts => cases ts <;> rfl
  | number hn => rfl

/-- nothing is absent from a setting -/
theorem present_eq_self : v.present = v := by
  cases h with
  | text t => rfl
  | texts ts =>
    have hitems : presentItems (ts.map .text) = ts.map .text := by
      induction ts with
      | nil => rfl
      | cons t ts ih => simp [presentItems, present, ih]
    rw [present, hitems]
  | number hn => rfl

/-- a setting is read back from its line -/
theorem readWhole_inline (rest : Text) :
    Toml.readWhole (Toml.inline v ++ '\n' :: rest) = .ok (v, '\n' :: rest) := by
  cases h with
  | text t => exact Toml.readValue_basicString t _ _ (by simp)
  | texts ts =>
    refine Toml.readValue_texts ts _ _ ?_
    have hlength := Toml.length_le_inline_texts ts
    rw [List.length_append]
    omega
  | number hn => exact Toml.readValue_ofNat hn _ _ _

/-- a setting begins with no space -/
theorem skipSpaces_inline (rest : Text) : Toml.skipSpaces (Toml.inline v ++ rest) = Toml.inline v ++ rest := by
  cases h with
  | text t => rfl
  | texts ts =>
    rw [Toml.inline_texts]
    rfl
  | @number n hn =>
    obtain ⟨c, cs, hcs⟩ : ∃ c cs, Text.ofNat n = c :: cs := List.exists_cons_of_ne_nil Nat.toDigits_ne_nil
    have hc : c.isDigit = true := isDigit_of_mem_ofNat c (hcs ▸ List.mem_cons_self)
    have hspace : Toml.isSpace c = false :=
      Toml.not_isSpace_of_isBareChar (by simp [Toml.isBareChar, Char.isAlphanum, hc])
    show Toml.skipSpaces (Text.ofNat n ++ rest) = Text.ofNat n ++ rest
    rw [hcs]
    exact List.dropWhile_cons_of_neg (by simp [hspace])

theorem isPlain_inline : Toml.IsPlain (Toml.inline v) := by
  cases h with
  | text t => exact Toml.isPlain_basicString t
  | texts ts =>
    cases ts with
    | nil => decide
    | cons t ts =>
      have hfurther : Toml.IsPlain (Toml.furtherItems ts) := by
        intro c hc
        obtain ⟨u, -, hu⟩ := List.mem_flatMap.1 hc
        exact Toml.isPlain_append.2 ⟨by decide, Toml.isPlain_basicString u⟩ c hu
      rw [Toml.inline_texts, Toml.join_cons]
      simp only [Toml.isPlain_append]
      exact ⟨⟨by decide, Toml.isPlain_basicString t, hfurther⟩, by decide⟩
  | number hn =>
    intro c hc
    have hdigit := isDigit_of_mem_ofNat c hc
    exact Toml.not_isControl_of_isBareChar (by simp [Toml.isBareChar, Char.isAlphanum, hdigit])

end Value.IsSetting

end Linewise
