/-
The lines of a text.

`LinesOf` says what the pieces of a text are when it is cut after each of its line feeds, and `lines` makes that cut
(`linesOf_iff`). The assembler drops the line end before it looks at a line, so a line may come without its line feed or
with a carriage return before it (`Respelled`). Universal newlines only respell the lines of a text in which every
carriage return stands before a line feed (`LinesOf.exists_respelled`); any other carriage return would end a line.
-/
import Linewise.Config.Sources
import Linewise.Text.Newline
import Linewise.Text.Utf8.RoundTrip
import Mathlib.Data.List.Forall2
import Mathlib.Data.List.Infix

namespace Linewise

namespace Text

/-! ## Cutting after line feeds -/

/-- a text, and its pieces when it is cut after each of its line feeds -/
inductive LinesOf : Text → List Text → Prop
  | empty : LinesOf [] []
  /-- a last line without a line feed -/
  | last {line : Text} (hsome : line ≠ []) (hline : '\n' ∉ line) : LinesOf line [line]
  | next {line rest : Text} {pieces : List Text} (hline : '\n' ∉ line) (hrest : LinesOf rest pieces) :
      LinesOf (line ++ '\n' :: rest) ((line ++ ['\n']) :: pieces)

/-- a character in front belongs to the first line -/
theorem lines_cons {c d : Char} {rest line : Text} {more : List Text} (hc : c ≠ '\n')
    (h : lines (d :: rest) = line :: more) : lines (c :: d :: rest) = (c :: line) :: more := by
  rw [lines.eq_def]
  simp only [if_neg hc, h]

theorem lines_append {line : Text} (h : '\n' ∉ line) (rest : Text) :
    lines (line ++ '\n' :: rest) = (line ++ ['\n']) :: lines rest := by
  induction line with
  | nil => rfl
  | cons c line ih =>
    obtain ⟨hc, hline⟩ := not_or.1 (mt List.mem_cons.2 h)
    cases line with
    | nil => exact lines_cons (Ne.symm hc) (ih hline)
    | cons d line => exact lines_cons (Ne.symm hc) (ih hline)

theorem lines_of_notMem {line : Text} (hsome : line ≠ []) (h : '\n' ∉ line) : lines line = [line] := by
  induction line with
  | nil => exact absurd rfl hsome
  | cons c line ih =>
    obtain ⟨hc, hline⟩ := not_or.1 (mt List.mem_cons.2 h)
    cases line with
    | nil =>
      rw [lines.eq_def]
      simp only [if_neg (Ne.symm hc)]
      rfl
    | cons d line => exact lines_cons (Ne.symm hc) (ih (List.cons_ne_nil d line) hline)

theorem LinesOf.lines_eq {t : Text} {pieces : List Text} (h : LinesOf t pieces) : lines t = pieces := by
  induction h with
  | empty => rfl
  | last hsome hline => exact lines_of_notMem hsome hline
  | next hline _ ih => rw [lines_append hline, ih]

theorem LinesOf.cons {c : Char} {rest : Text} {pieces : List Text} (hc : c ≠ '\n') (h : LinesOf rest pieces) :
    LinesOf (c :: rest) (lines (c :: rest)) := by
  have hmem {line : Text} (hline : '\n' ∉ line) : '\n' ∉ c :: line :=
    fun h => (List.mem_cons.1 h).elim (fun he => hc he.symm) hline
  cases h with
  | empty =>
    have hone := hmem List.not_mem_nil
    rw [lines_of_notMem (List.cons_ne_nil c []) hone]
    exact .last (List.cons_ne_nil c []) hone
  | last hsome hline =>
    rw [lines_of_notMem (List.cons_ne_nil _ _) (hmem hline)]
    exact .last (List.cons_ne_nil _ _) (hmem hline)
  | next hline hrest =>
    rw [← List.cons_append, lines_append (hmem hline), hrest.lines_eq]
    exact .next (hmem hline) hrest

theorem linesOf_lines (t : Text) : LinesOf t (lines t) := by
  induction t with
  | nil => exact .empty
  | cons c rest ih =>
    by_cases hc : c = '\n'
    · subst hc
      exact .next List.not_mem_nil ih
    · exact ih.cons hc

/-- every text has one cut, and `lines` makes it -/
theorem linesOf_iff {t : Text} {pieces : List Text} : LinesOf t pieces ↔ lines t = pieces :=
  ⟨LinesOf.lines_eq, fun h => h ▸ linesOf_lines t⟩

/-- lines written one after another are cut into the same lines -/
theorem linesOf_flatMap {ls : List Text} (h : ∀ line ∈ ls, '\n' ∉ line) :
    LinesOf (ls.flatMap fun line => line ++ ['\n']) (ls.map fun line => line ++ ['\n']) := by
  induction ls with
  | nil => exact .empty
  | cons line rest ih =>
    obtain ⟨hline, hrest⟩ := List.forall_mem_cons.1 h
    rw [List.flatMap_cons, List.append_assoc]
    exact .next hline (ih hrest)

/-! ## Line ends -/

/-- what may stand at the end of a line -/
def lineEnds : List Text := [[], ['\n'], ['\r', '\n']]

/-- two spellings of a line, with one line end and with another -/
def Respelled (line given : Text) : Prop := ∃ body, ∃ e ∈ lineEnds, ∃ e' ∈ lineEnds, line = body ++ e ∧ given = body ++ e'

theorem Respelled.same (line : Text) : Respelled line line :=
  ⟨line, [], by decide, [], by decide, (List.append_nil _).symm, (List.append_nil _).symm⟩

theorem chomp_append_lineEnd (body : Text) {e : Text} (h : e ∈ lineEnds) : chomp (body ++ e) = chomp body := by
  have hends : e = [] ∨ e = ['\n'] ∨ e = ['\r', '\n'] := by simpa [lineEnds] using h
  rcases hends with rfl | rfl | rfl <;> simp [chomp, dropEndWhile]

theorem Respelled.chomp_eq {line given : Text} (h : Respelled line given) : given.chomp = line.chomp := by
  obtain ⟨body, e, he, e', he', rfl, rfl⟩ := h
  rw [chomp_append_lineEnd body he, chomp_append_lineEnd body he']

/-- every carriage return stands right before a line feed -/
def ReturnsEndLines (t : Text) : Prop := ∀ after, '\r' :: after <:+ t → after.head? = some '\n'

theorem returnsEndLines_iff {t : Text} :
    ReturnsEndLines t ↔ ∀ s ∈ t.tails, s.head? = some '\r' → s.tail.head? = some '\n' := by
  simp only [List.mem_tails]
  constructor
  · intro h s hs hreturn
    cases s with
    | nil => cases hreturn
    | cons c after =>
      obtain rfl : c = '\r' := Option.some.inj hreturn
      exact h after hs
  · intro h after hafter
    exact h ('\r' :: after) hafter rfl

instance (t : Text) : Decidable (ReturnsEndLines t) := decidable_of_iff _ returnsEndLines_iff.symm

theorem ReturnsEndLines.of_append {a b : Text} (h : ReturnsEndLines (a ++ b)) : ReturnsEndLines b :=
  fun after hafter => h after (hafter.trans (List.suffix_append a b))

/-- in a line there is at most one carriage return then, the last character -/
theorem ReturnsEndLines.eq_of_mem {line rest : Text} (h : ReturnsEndLines (line ++ '\n' :: rest)) (hline : '\n' ∉ line)
    (hmem : '\r' ∈ line) : ∃ front, line = front ++ ['\r'] ∧ '\r' ∉ front := by
  obtain ⟨front, back, rfl, hfront⟩ := List.eq_append_cons_of_mem hmem
  have hhead := h (back ++ '\n' :: rest) ⟨front, by simp⟩
  cases back with
  | nil => exact ⟨front, rfl, hfront⟩
  | cons c back =>
    obtain rfl : c = '\n' := Option.some.inj hhead
    exact absurd (by simp) hline

/-- a text without a carriage return stays as it is before any other -/
theorem universalNewlines_append {a : Text} (h : '\r' ∉ a) (b : Text) :
    universalNewlines (a ++ b) = a ++ universalNewlines b := by
  induction a with
  | nil => rfl
  | cons c rest ih =>
    obtain ⟨hc, hrest⟩ := not_or.1 (mt List.mem_cons.2 h)
    rw [List.cons_append, universalNewlines, ih hrest, List.cons_append]
    · rintro more rfl
      exact absurd rfl hc
    · rintro rfl
      exact absurd rfl hc

/-- without a carriage return there are no line ends but line feeds -/
theorem universalNewlines_eq_self {t : Text} (h : '\r' ∉ t) : universalNewlines t = t := by
  simpa [universalNewlines] using universalNewlines_append h []

/-- universal newlines leave the lines as they are, but for their line ends -/
theorem LinesOf.exists_respelled {t : Text} {pieces : List Text} (h : LinesOf t pieces) (hreturns : ReturnsEndLines t) :
    ∃ read, LinesOf (universalNewlines t) read ∧ List.Forall₂ Respelled read pieces := by
  induction h with
  | empty => exact ⟨[], .empty, .nil⟩
  | @last line hsome hline =>
    have hnone : '\r' ∉ line := by
      intro hmem
      obtain ⟨before, after, rfl⟩ := List.append_of_mem hmem
      have hafter := hreturns after ⟨before, rfl⟩
      exact hline (List.mem_append_right _ (List.mem_cons_of_mem _ (List.mem_of_mem_head? hafter)))
    rw [universalNewlines_eq_self hnone]
    exact ⟨[line], .last hsome hline, .cons (.same line) .nil⟩
  | @next line rest pieces hline _ ih =>
    have hrest : ReturnsEndLines rest := by
      rw [List.append_cons] at hreturns
      exact hreturns.of_append
    obtain ⟨read, hread, hsame⟩ := ih hrest
    by_cases hmem : '\r' ∈ line
    · obtain ⟨front, rfl, hfront⟩ := hreturns.eq_of_mem hline hmem
      have htext : universalNewlines (front ++ ['\r'] ++ '\n' :: rest) = front ++ '\n' :: universalNewlines rest := by
        rw [List.append_assoc, universalNewlines_append hfront]
        rfl
      have hpiece : front ++ ['\r'] ++ ['\n'] = front ++ ['\r', '\n'] := List.append_assoc ..
      rw [htext, hpiece]
      have hend : Respelled (front ++ ['\n']) (front ++ ['\r', '\n']) :=
        ⟨front, ['\n'], by decide, ['\r', '\n'], by decide, rfl, rfl⟩
      exact ⟨_, .next (fun h => hline (List.mem_append_left _ h)) hread, .cons hend hsame⟩
    · have htext : universalNewlines (line ++ '\n' :: rest) = line ++ '\n' :: universalNewlines rest := by
        rw [universalNewlines_append hmem]
        rfl
      rw [htext]
      exact ⟨_, .next hline hread, .cons (.same _) hsame⟩

end Text

/-- a file that holds the encoding of a text is read as that text, with universal newlines -/
theorem FileTree.readText_of_read {tree : FileTree} {path t : Text} (h : tree.read path = .ok (Utf8.encode t)) :
    tree.readText path = .ok (.ok t.universalNewlines) := by
  rw [readText, h]
  show Except.ok ((Utf8.decode (Utf8.encode t)).map Text.universalNewlines) = _
  rw [Utf8.decode_encode]
  rfl

end Linewise
