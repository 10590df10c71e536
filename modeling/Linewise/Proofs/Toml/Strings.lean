/-
Strings and keys of settings documents read back.

A basic string is read back whatever its characters are (`readString_basicString`): what the writer escapes, the reader
undoes, one character at a time. A key is read back too, bare or not, up to the character that ends it
(`readKey_key`). No written text has a control character in it, so neither universal newlines nor the removal of escape
sequences changes it.
-/
import Linewise.Proofs.Outcomes
import Linewise.Toml.Key
import Mathlib.Data.List.TakeWhile
import Mathlib.Tactic.SplitIfs

namespace Linewise.Toml

/-- what holds of the first 128 characters holds of every ASCII character -/
theorem forall_of_ascii (P : Char → Prop) (h : ∀ n < 128, P (Char.ofNat n)) {c : Char} (hc : c.toNat < 128) : P c := by
  have := h c.toNat hc
  rwa [Char.ofNat_toNat] at this

/-- no control character stands in the text -/
def IsPlain (t : Text) : Prop := ∀ c ∈ t, isControl c = false

instance (t : Text) : Decidable (IsPlain t) :=
  decidable_of_iff ((t.all fun c => !isControl c) = true) (by simp [IsPlain])

theorem isPlain_cons {c : Char} {t : Text} : IsPlain (c :: t) ↔ isControl c = false ∧ IsPlain t := List.forall_mem_cons

theorem isPlain_append {s t : Text} : IsPlain (s ++ t) ↔ IsPlain s ∧ IsPlain t := List.forall_mem_append

/-- no control character stands in the text but line feeds -/
def HasPlainLines (t : Text) : Prop := ∀ c ∈ t, isControl c = true → c = '\n'

theorem hasPlainLines_append {s t : Text} : HasPlainLines (s ++ t) ↔ HasPlainLines s ∧ HasPlainLines t :=
  List.forall_mem_append

theorem IsPlain.hasPlainLines {t : Text} (h : IsPlain t) : HasPlainLines t := by
  intro c hc hcontrol
  rw [h c hc] at hcontrol
  cases hcontrol

/-- a line before other lines -/
theorem IsPlain.line {line t : Text} (h : IsPlain line) (ht : HasPlainLines t) : HasPlainLines (line ++ '\n' :: t) :=
  hasPlainLines_append.2 ⟨h.hasPlainLines, List.forall_mem_cons.2 ⟨fun _ => rfl, ht⟩⟩

theorem HasPlainLines.notMem {t : Text} (h : HasPlainLines t) {c : Char} (hcontrol : isControl c = true)
    (hc : c ≠ '\n') : c ∉ t := fun hmem => hc (h c hmem hcontrol)

/-! ## Strings -/

/-- the four digits of an ASCII character -/
theorem hex_of_lt : ∀ n < 128, (Text.hex 4 n).length = 4 ∧ mayBeCode (Text.hex 4 n) = true ∧
    Integer.readMarked? 16 'x' (Text.hex 4 n) = some (.ofNat n) ∧ IsPlain (Text.hex 4 n) := by
  decide +kernel

theorem readCode_hex {c : Char} (h : c.toNat < 128) (rest : Text) :
    readCode 4 (Text.hex 4 c.toNat ++ rest) = .ok (c, rest) := by
  obtain ⟨hlength, hcode, hread, -⟩ := hex_of_lt _ h
  have htake : (Text.hex 4 c.toNat ++ rest).take 4 = Text.hex 4 c.toNat := List.take_left' hlength
  have hdrop : (Text.hex 4 c.toNat ++ rest).drop 4 = rest := List.drop_left' hlength
  simp [readCode, htake, hdrop, hlength, hcode, hread]

/-- a character stands for itself, or an escape stands for it -/
theorem escapeChar_cases (c : Char) :
    (escapeChar c = [c] ∧ c ≠ '"' ∧ c ≠ '\\' ∧ isControl c = false) ∨
      ∃ code, escapeChar c = '\\' :: code ∧ IsPlain code ∧ ∀ rest, readEscape (code ++ rest) = .ok (c, rest) := by
  unfold escapeChar
  split_ifs with hquote hslash hback htab hfeed hform hreturn hcontrol
  · exact .inr ⟨['"'], rfl, by decide, by subst hquote; intro rest; rfl⟩
  · exact .inr ⟨['\\'], rfl, by decide, by subst hslash; intro rest; rfl⟩
  · exact .inr ⟨['b'], rfl, by decide, by subst hback; intro rest; rfl⟩
  · exact .inr ⟨['t'], rfl, by decide, by subst htab; intro rest; rfl⟩
  · exact .inr ⟨['n'], rfl, by decide, by subst hfeed; intro rest; rfl⟩
  · exact .inr ⟨['f'], rfl, by decide, by subst hform; intro rest; rfl⟩
  · exact .inr ⟨['r'], rfl, by decide, by subst hreturn; intro rest; rfl⟩
  · have hascii : c.toNat < 128 := by
      rcases Bool.or_eq_true _ _ ▸ hcontrol with hlow | hdel
      · have := of_decide_eq_true hlow
        omega
      · rw [of_decide_eq_true hdel]
        decide
    obtain ⟨-, -, -, hdigits⟩ := hex_of_lt _ hascii
    exact .inr ⟨'u' :: Text.hex 4 c.toNat, rfl, isPlain_cons.2 ⟨by decide, hdigits⟩, readCode_hex hascii⟩
  · refine .inl ⟨rfl, hquote, hslash, ?_⟩
    simp only [Bool.or_eq_true, decide_eq_true_eq, not_or] at hcontrol
    simp [isControl, hcontrol.1, hcontrol.2]

/-- the reader undoes the escaping of one character -/
theorem readShort_escapeChar (c : Char) (fuel : Nat) (rest : Text) :
    readShort '"' true (fuel + 1) (escapeChar c ++ rest) =
      (readShort '"' true fuel rest).map fun r => (c :: r.1, r.2) := by
  rcases escapeChar_cases c with ⟨hself, hquote, hslash, hcontrol⟩ | ⟨code, hcode, -, hread⟩
  · rw [hself, List.singleton_append, readShort, if_neg (by simp [hcontrol]), if_neg hquote, if_neg (by simp [hslash])]
    cases readShort '"' true fuel rest <;> rfl
  · rw [hcode, List.cons_append, readShort, if_neg (by decide), if_neg (by decide), if_pos (by decide)]
    simp only [hread]
    cases hrest : readShort '"' true fuel rest <;> simp [hrest, bind, Except.bind, Except.map, pure, Except.pure]

theorem readShort_flatMap_escapeChar {fuel : Nat} (t rest : Text) (h : t.length < fuel) :
    readShort '"' true fuel (t.flatMap escapeChar ++ '"' :: rest) = .ok (t, rest) := by
  induction t generalizing fuel with
  | nil =>
    obtain ⟨fuel, rfl⟩ := Nat.exists_eq_add_one.2 (Nat.zero_lt_of_lt h)
    rfl
  | cons c t ih =>
    rw [List.length_cons] at h
    obtain ⟨fuel, rfl⟩ := Nat.exists_eq_add_one.2 (Nat.zero_lt_of_lt h)
    rw [List.flatMap_cons, List.append_assoc, readShort_escapeChar, ih (Nat.lt_of_succ_lt_succ h)]
    rfl

theorem length_le_flatMap_escapeChar (t : Text) : t.length ≤ (t.flatMap escapeChar).length := by
  induction t with
  | nil => exact Nat.le_refl 0
  | cons c t ih =>
    have hone : 1 ≤ (escapeChar c).length := by
      rcases escapeChar_cases c with ⟨hself, -⟩ | ⟨code, hcode, -⟩
      · rw [hself]
        exact Nat.le_refl 1
      · rw [hcode, List.length_cons]
        omega
    rw [List.flatMap_cons, List.length_append, List.length_cons]
    omega

/-- what is between the quotes of a basic string does not begin with a quote -/
theorem head?_flatMap_escapeChar (t : Text) : (t.flatMap escapeChar).head? ≠ some '"' := by
  cases t with
  | nil => simp
  | cons c t =>
    rcases escapeChar_cases c with ⟨hself, hquote, -⟩ | ⟨code, hcode, -⟩
    · simp [List.flatMap_cons, hself, hquote]
    · simp [List.flatMap_cons, hcode]

/-- a basic string is read back; a further quote after it would make it one of several lines -/
theorem readString_basicString (t : Text) {rest : Text} (h : rest.head? ≠ some '"') :
    readString '"' (basicString t ++ rest) = .ok ((t, false), rest) := by
  have hbody : (basicString t ++ rest).drop 1 = t.flatMap escapeChar ++ '"' :: rest := by
    simp [basicString]
  have hread : ∀ fuel, (t.flatMap escapeChar ++ '"' :: rest).length < fuel →
      readShort '"' true fuel (t.flatMap escapeChar ++ '"' :: rest) = .ok (t, rest) := by
    intro fuel hfuel
    refine readShort_flatMap_escapeChar t rest ?_
    have hlength := length_le_flatMap_escapeChar t
    rw [List.length_append] at hfuel
    omega
  -- a string of several lines begins with two more quotes
  have hshort : ∀ more, t.flatMap escapeChar ++ '"' :: rest ≠ '"' :: '"' :: more := by
    intro more heq
    have hhead := head?_flatMap_escapeChar t
    cases hinner : t.flatMap escapeChar with
    | nil =>
      rw [hinner, List.nil_append] at heq
      exact h (by rw [(List.cons.inj heq).2]; rfl)
    | cons c inner =>
      rw [hinner] at heq hhead
      exact hhead (by rw [(List.cons.inj heq).1]; rfl)
  rw [readString, hbody]
  split
  · rename_i c d more heq
    have hquotes : ¬ ((decide (c = '"') && decide (d = '"')) = true) := by
      rw [Bool.and_eq_true, decide_eq_true_eq, decide_eq_true_eq]
      rintro ⟨rfl, rfl⟩
      exact hshort more heq
    rw [if_neg hquotes, ← heq, show ('"' == '"') = true from rfl, hread _ (by rw [heq]; simp)]
    rfl
  · rw [show ('"' == '"') = true from rfl, hread _ (Nat.lt_succ_self _)]
    rfl

theorem isPlain_escapeChar (c : Char) : IsPlain (escapeChar c) := by
  rcases escapeChar_cases c with ⟨hself, -, -, hcontrol⟩ | ⟨code, hcode, hplain, -⟩
  · rw [hself]
    exact isPlain_cons.2 ⟨hcontrol, by decide⟩
  · rw [hcode]
    exact isPlain_cons.2 ⟨by decide, hplain⟩

theorem isPlain_basicString (t : Text) : IsPlain (basicString t) := by
  rw [basicString, isPlain_append, isPlain_cons]
  refine ⟨⟨by decide, fun c hc => ?_⟩, by decide⟩
  obtain ⟨d, -, hd⟩ := List.mem_flatMap.1 hc
  exact isPlain_escapeChar d c hd

/-! ## Keys -/

theorem key_cases (k : Text) :
    (key k = k ∧ k ≠ [] ∧ ∀ c ∈ k, isBareChar c = true) ∨ key k = basicString k := by
  unfold key
  split_ifs with hbare
  · rw [Bool.and_eq_true, List.all_eq_true] at hbare
    exact .inl ⟨rfl, by simpa using hbare.1, hbare.2⟩
  · exact .inr rfl

theorem not_isSpace_of_isBareChar {c : Char} (h : isBareChar c = true) : isSpace c = false := by
  cases hspace : isSpace c with
  | false => rfl
  | true =>
    rw [isSpace, Bool.or_eq_true, beq_iff_eq, beq_iff_eq] at hspace
    rcases hspace with rfl | rfl <;> cases h

theorem not_isControl_of_isBareChar {c : Char} (h : isBareChar c = true) : isControl c = false := by
  by_cases hc : c.toNat < 128
  · exact forall_of_ascii (fun c => isBareChar c = true → isControl c = false) (by decide +kernel) hc h
  · have hlow : ¬ c.toNat < 32 := fun hlt => hc (by omega)
    have hdel : c ≠ '\x7f' := fun heq => hc (by rw [heq]; decide)
    simp [isControl, hlow, hdel]

theorem isPlain_key (k : Text) : IsPlain (key k) := by
  rcases key_cases k with ⟨hkey, -, hbare⟩ | hkey
  · rw [hkey]
    exact fun c hc => not_isControl_of_isBareChar (hbare c hc)
  · rw [hkey]
    exact isPlain_basicString k

/-- an ending is dropped whole, and nothing before it -/
theorem dropEndWhile_append {p : Char → Bool} {t ending : Text} (ht : ∀ c ∈ t, p c = false)
    (hending : ∀ c ∈ ending, p c = true) : Text.dropEndWhile p (t ++ ending) = t := by
  have hreverse : t.reverse.dropWhile p = t.reverse :=
    List.dropWhile_eq_self_iff.2 fun _ => by simp [ht]
  rw [Text.dropEndWhile, List.reverse_append,
    List.dropWhile_append_of_pos fun c hc => hending c (List.mem_reverse.1 hc), hreverse, List.reverse_reverse]

section

-- after a key come spaces, perhaps, and the character that ends it
variable {k rest more : Text} {last : Char} (hrest : skipSpaces rest = last :: more)
include hrest

theorem isSpace_of_skipSpaces : isSpace last = false := by
  have hhead := List.head?_dropWhile_not isSpace rest
  rw [show rest.dropWhile isSpace = last :: more from hrest] at hhead
  exact hhead

/-- the characters of a bare key and the spaces after it are read at once -/
theorem span_bare (hk : ∀ c ∈ k, isBareChar c = true) (hlast : isBareChar last = false) :
    ((k ++ rest).takeWhile fun d => isBareChar d || isSpace d) = k ++ rest.takeWhile isSpace ∧
      ((k ++ rest).dropWhile fun d => isBareChar d || isSpace d) = last :: more := by
  let bare : Char → Bool := fun d => isBareChar d || isSpace d
  have hstops : ¬ bare last = true := by simp [bare, hlast, isSpace_of_skipSpaces hrest]
  have hfront : ∀ c ∈ k ++ rest.takeWhile isSpace, bare c = true := by
    intro c hc
    rcases List.mem_append.1 hc with hkey | hspaces
    · simp [bare, hk c hkey]
    · simp [bare, List.mem_takeWhile_imp hspaces]
  have hsplit : k ++ rest = (k ++ rest.takeWhile isSpace) ++ last :: more := by
    rw [List.append_assoc, ← hrest, skipSpaces, List.takeWhile_append_dropWhile]
  show (k ++ rest).takeWhile bare = _ ∧ (k ++ rest).dropWhile bare = _
  rw [hsplit, List.takeWhile_append_of_pos hfront, List.dropWhile_append_of_pos hfront,
    List.takeWhile_cons_of_neg hstops, List.dropWhile_cons_of_neg hstops, List.append_nil]
  exact ⟨rfl, rfl⟩

/-- a key is read back as one part -/
theorem readKeyPart_key (hlast : isBareChar last = false) (hquote : last ≠ '"') :
    readKeyPart (key k ++ rest) = .ok (k, last :: more) := by
  rcases key_cases k with ⟨hkey, hne, hbare⟩ | hkey
  · obtain ⟨c, cs, rfl⟩ := List.exists_cons_of_ne_nil hne
    have hc := hbare c List.mem_cons_self
    have hspace : ∀ d ∈ c :: cs, isSpace d = false := fun d hd => not_isSpace_of_isBareChar (hbare d hd)
    have hskip : skipSpaces (c :: (cs ++ rest)) = c :: (cs ++ rest) :=
      List.dropWhile_cons_of_neg (by simp [hspace c List.mem_cons_self])
    have hquotes : ¬ (decide (c = '"') || decide (c = '\'')) = true := by
      simp only [Bool.or_eq_true, decide_eq_true_eq]
      rintro (rfl | rfl) <;> cases hc
    obtain ⟨htake, hdrop⟩ := span_bare hrest hbare hlast
    have hend : Text.dropEndWhile isSpace ((c :: cs) ++ rest.takeWhile isSpace) = c :: cs :=
      dropEndWhile_append hspace fun d hd => List.mem_takeWhile_imp hd
    have hany : (c :: cs).any isSpace = false := by
      rw [List.any_eq_false]
      intro d hd
      simp [hspace d hd]
    rw [hkey, readKeyPart, List.cons_append, hskip]
    simp only [if_neg hquotes]
    rw [← List.cons_append, htake, hdrop, hend, hany]
    rfl
  · have hhead : rest.head? ≠ some '"' := by
      intro hhead
      obtain ⟨tail, rfl⟩ := List.head?_eq_some_iff.1 hhead
      exact hquote (List.cons.inj hrest).1.symm
    have hread := readString_basicString k hhead
    have hskip : skipSpaces (basicString k ++ rest) = '"' :: (k.flatMap escapeChar ++ ['"'] ++ rest) := rfl
    have hstart : '"' :: (k.flatMap escapeChar ++ ['"'] ++ rest) = basicString k ++ rest := rfl
    rw [hkey, readKeyPart, hskip]
    simp only [hstart, hread]
    rw [if_pos (by decide)]
    show (Except.ok (k, skipSpaces rest) : Except Stop (Text × Text)) = _
    rw [hrest]

/-- a key is read back, up to the character that ends it -/
theorem readKey_key (hlast : isBareChar last = false) (hquote : last ≠ '"') (hdot : last ≠ '.') :
    readKey (key k ++ rest) = .ok ([k], last :: more) := by
  rw [readKey, show maxParts = 99 + 1 from rfl, readParts, readKeyPart_key hrest hlast hquote, ok_bind]
  dsimp only
  split
  · rename_i heq
    exact absurd (List.cons.inj heq).1 hdot
  · rfl

end

end Linewise.Toml
