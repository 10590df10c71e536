/-
Terminal styles: escape sequences that switch a style on and off around a text.

`strip` takes the sequences out again; a text without the escape character is left as it is (`strip_eq_self`).
-/
import Linewise.Text.Basic

namespace Linewise

/-- the escape character -/
def escape : Char := '\x1b'

/-- the sequence of one code -/
def escapeCode (n : Nat) : Text := escape :: '[' :: Text.ofNat n ++ ['m']

/-- a style: the codes that switch it on, and those that switch it off -/
structure Style where
  on : List Nat
  off : List Nat
deriving DecidableEq, Repr, Inhabited

namespace Style

/-- the text in a style -/
def wrap (s : Style) (t : Text) : Text := s.on.flatMap escapeCode ++ t ++ s.off.flatMap escapeCode

/-- each line of the text in a style -/
def wrapLines (s : Style) (t : Text) : Text := Text.join ['\n'] ((Text.splitOn '\n' t).map s.wrap)

/-- what follows an escape sequence, if the text after the escape character completes one: a bracket, any number of
digits, semicolons and question marks, and one letter -/
def afterSequence? (t : Text) : Option Text :=
  match t with
  | '[' :: rest =>
    match rest.dropWhile fun c => c.isDigit || c == ';' || c == '?' with
    | c :: after => if c.isAlpha then some after else none
    | [] => none
  | _ => none

theorem length_afterSequence? {t rest : Text} (h : afterSequence? t = some rest) : rest.length < t.length := by
  unfold afterSequence? at h
  split at h
  · rename_i inner
    split at h
    · rename_i c after hd
      split at h
      · injection h with h
        subst h
        have := (List.dropWhile_sublist (l := inner) fun c => c.isDigit || c == ';' || c == '?').length_le
        simp only [hd, List.length_cons] at this ⊢
        omega
      · contradiction
    · contradiction
  · contradiction

/-- the text without its escape sequences -/
def strip (t : Text) : Text :=
  match t with
  | [] => []
  | c :: rest =>
    if c = escape then
      match h : afterSequence? rest with
      | some after =>
        have := length_afterSequence? h
        strip after
      | none => c :: strip rest
    else c :: strip rest
termination_by t.length
decreasing_by all_goals simp only [List.length_cons]; omega

/-- a text without the escape character has nothing to strip -/
theorem strip_eq_self {t : Text} (h : escape ∉ t) : strip t = t := by
  induction t with
  | nil => simp [strip]
  | cons c rest ih =>
    have hc : c ≠ escape := fun e => h (e ▸ List.mem_cons_self)
    rw [strip, if_neg hc, ih fun m => h (List.mem_cons_of_mem _ m)]

end Style

end Linewise
