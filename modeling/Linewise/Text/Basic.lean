/-
Texts as lists of characters, and the few operations on them that the rest of the library is written in.

A line, a statement, a name and a piece of a document are all a `Text`. String literals are read as texts. Cutting
never loses characters: `dropEndWhile_append_takeEndWhile` puts a trimmed text together again.
-/
namespace Linewise

/-- a text is the list of its characters -/
abbrev Text := List Char

instance : Coe String Text := ⟨String.toList⟩

namespace Text

/-- `n` spaces -/
def spaces (n : Nat) : Text := List.replicate n ' '

@[simp] theorem length_spaces (n : Nat) : (spaces n).length = n := List.length_replicate

/-- the text without its longest ending of characters in `p` -/
def dropEndWhile (p : Char → Bool) (t : Text) : Text := (t.reverse.dropWhile p).reverse

/-- the longest ending of characters in `p` -/
def takeEndWhile (p : Char → Bool) (t : Text) : Text := (t.reverse.takeWhile p).reverse

theorem dropEndWhile_append_takeEndWhile (p : Char → Bool) (t : Text) :
    dropEndWhile p t ++ takeEndWhile p t = t := by
  rw [dropEndWhile, takeEndWhile, ← List.reverse_append, List.takeWhile_append_dropWhile, List.reverse_reverse]

@[simp] theorem dropEndWhile_nil (p : Char → Bool) : dropEndWhile p [] = [] := rfl

/-- `d` stands at the start of the text -/
def startsWith (t d : Text) : Bool := d.isPrefixOf t

/-- `d` stands at the end of the text -/
def endsWith (t d : Text) : Bool := d.isSuffixOf t

/-- the text without its last `n` characters -/
def dropEnd (n : Nat) (t : Text) : Text := t.take (t.length - n)

/-- what stands before the first occurrence of `d`, if there is one -/
def before? (d : Text) : Text → Option Text
  | [] => if d.isEmpty then some [] else none
  | c :: rest => if startsWith (c :: rest) d then some [] else (before? d rest).map (c :: ·)

/-- the pieces between the occurrences of one character; a text without it is its only piece -/
def splitOn (sep : Char) : Text → List Text
  | [] => [[]]
  | c :: rest =>
    if c = sep then [] :: splitOn sep rest
    else match splitOn sep rest with
      | [] => [[c]]
      | piece :: pieces => (c :: piece) :: pieces

/-- the pieces with a separator between them -/
def join (sep : Text) (pieces : List Text) : Text := sep.intercalate pieces

/-- a number in decimal digits -/
def ofNat (n : Nat) : Text := Nat.toDigits 10 n

/-- an integer in decimal digits, with a sign in front if it is negative -/
def ofInt : Int → Text
  | .ofNat n => ofNat n
  | .negSucc n => '-' :: ofNat (n + 1)

/-- a code point in at least `width` lower-case hexadecimal digits -/
def hex (width n : Nat) : Text :=
  let digits := Nat.toDigits 16 n
  List.replicate (width - digits.length) '0' ++ digits

theorem splitOn_ne_nil (sep : Char) (t : Text) : splitOn sep t ≠ [] := by
  induction t with
  | nil => simp [splitOn]
  | cons c rest ih =>
    rw [splitOn]
    split
    · simp
    · cases h : splitOn sep rest <;> simp

end Text

end Linewise
