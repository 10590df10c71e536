/-
All ways to convert a text agree.

A text may be given whole, as lines, as a file or on the standard input. What the assembler sees of a line is the same
without its line end, so it does not matter how the ends are spelled (`run_respelled`), nor that a file is read with
universal newlines as long as no carriage return stands alone (`ofText_universalNewlines`). `entry_points_agree` puts the
ways side by side: the same output, the same context at the end, and the same notes about it.
-/
import Linewise.Proofs.Endings
import Linewise.Proofs.Faultless
import Linewise.Proofs.Lines

namespace Linewise

open Assembler

/-! ## Lines -/

/-- nothing is read of a line but what stands before its line end -/
theorem Assembler.feed_respelled (config : Config) (a : Assembler) {line given : Text}
    (h : Text.Respelled line given) : a.feed config given = a.feed config line := by
  simp only [feed, h.chomp_eq]

theorem Conversion.run_respelled {config : Config} {lines given : List Text}
    (h : List.Forall₂ Text.Respelled lines given) (a : Assembler) : run config a given = run config a lines := by
  induction h generalizing a with
  | nil => rfl
  | cons hline _ ih =>
    rw [run, run, feed_respelled config a hline]
    simp only [ih]

theorem Assembler.lineNumber_stateAfter (config : Config) (a : Assembler) (lines : List Text) :
    (a.stateAfter config (wholeInput lines)).context.lineNumber = a.context.lineNumber + lines.length := by
  induction lines generalizing a with
  | nil => rfl
  | cons line rest ih =>
    have hstep : (a.turn config (.feed line)).after.context.lineNumber = a.context.lineNumber + 1 := by
      rw [turn_after, Event.after, event_feed_isFinish]
      rfl
    have hrest := ih (a.turn config (.feed line)).after
    rw [hstep] at hrest
    rw [List.length_cons, ← Nat.add_assoc, Nat.add_right_comm]
    exact hrest

namespace Conversion

section

variable {config : Config} {t : Text} {pieces : List Text}

theorem ofText_eq_ofLines (h : Text.LinesOf t pieces) : ofText config t = ofLines config pieces := by
  rw [ofText, h.lines_eq]

theorem ofLines_respelled {given : List Text} (h : Text.LinesOf t pieces)
    (hgiven : List.Forall₂ Text.Respelled pieces given) : ofLines config given = ofText config t := by
  rw [ofText_eq_ofLines h]
  exact run_respelled hgiven {}

/-- universal newlines make no difference where every carriage return stands before a line feed -/
theorem ofText_universalNewlines (h : Text.ReturnsEndLines t) :
    ofText config t.universalNewlines = ofText config t := by
  obtain ⟨read, hread, hsame⟩ := (Text.linesOf_lines t).exists_respelled h
  exact (ofLines_respelled hread hsame).symm

/-- a text that was written is converted as its lines are, if none of them has a line feed of its own -/
theorem ofText_text {c : Conversion} (h : ∀ line ∈ c.rendered config.layout, '\n' ∉ line) :
    ofText config (c.text config.layout) = ofLines config (c.rendered config.layout) := by
  have hbare : List.Forall₂ Text.Respelled ((c.rendered config.layout).map fun line => line ++ ['\n'])
      (c.rendered config.layout) := by
    rw [List.forall₂_map_left_iff, List.forall₂_same]
    exact fun line _ => ⟨line, ['\n'], by decide, [], by decide, rfl, (List.append_nil line).symm⟩
  exact (ofLines_respelled (Text.linesOf_flatMap h) hbare).symm

/-- the text of a conversion, written call by call -/
theorem flatMap_history_eq_text (h : Text.LinesOf t pieces) (hfault : (ofText config t).fault = none) :
    ((history config pieces).flatMap fun turn => turn.out.flatMap fun line => line.render config.layout ++ ['\n']) =
      (ofText config t).text config.layout := by
  rw [ofText_eq_ofLines h] at hfault ⊢
  obtain ⟨-, hlines, -⟩ := run_of_fault_none hfault
  have hall : (ofLines config pieces).lines = (history config pieces).flatMap Turn.out := hlines
  rw [text, rendered, hall, List.flatMap_map, List.flatMap_assoc]

theorem lineNumber_final (h : Text.LinesOf t pieces) (hfault : (ofText config t).fault = none) :
    (ofText config t).final.context.lineNumber = pieces.length := by
  rw [ofText_eq_ofLines h] at hfault ⊢
  obtain ⟨-, -, hfinal⟩ := run_of_fault_none hfault
  have hstate : (ofLines config pieces).final = stateAfter config {} (wholeInput pieces) := hfinal
  rw [hstate, lineNumber_stateAfter]
  exact Nat.zero_add _

end

/-- the report of a conversion that reached its end -/
def report (c : Conversion) (source : Text) : Report := ⟨source, c.final.context⟩

end Conversion

/-! ## Files -/

theorem Batch.run_singleton (config : Config) (tree : FileTree) (withBanner : Bool) (path : Text) :
    run config tree withBanner [path] = file config tree withBanner path := by
  show append (file config tree withBanner path) {} = _
  simp [append]

/-- the batch of a file without a heading is the conversion of its text -/
theorem Batch.file_of_read {config : Config} {tree : FileTree} {path t : Text}
    (hread : tree.read (Path.tidy path) = .ok (Utf8.encode t)) (hreturns : Text.ReturnsEndLines t)
    (hfault : (Conversion.ofText config t).fault = none) :
    file config tree false path =
      { output := (Conversion.ofText config t).text config.layout
        reports := [(Conversion.ofText config t).report (Path.tidy path)]
        records := (Conversion.ofText config t).records (Path.tidy path) } := by
  simp only [file, FileTree.readText_of_read hread, ofText, Conversion.ofText_universalNewlines hreturns, hfault]
  rfl

/-! ## The standard input -/

theorem once_dash : [dash].count dash ≤ 1 := by decide

theorem one_dash : decide (1 < [dash].length) = false := rfl

theorem Conversions.run_dash (config : Config) (input : Bytes) (tree : FileTree) (withBanner : Bool) :
    run config input tree withBanner [dash] = ofInput config input withBanner := by
  rw [run, along_singleton]
  exact if_pos rfl

theorem Conversions.save_dash (config : Config) (input : Bytes) (tree : FileTree) (place : Place) (withBanner : Bool) :
    save config input tree place withBanner [dash] = ofInput config input withBanner := by
  rw [save, along_singleton]
  exact if_pos rfl

/-- the standard input without a heading is the conversion of its text -/
theorem Conversions.ofInput_encode {config : Config} {t : Text} (hfault : (Conversion.ofText config t).fault = none) :
    ofInput config (Utf8.encode t) false =
      { events := .converted ((Conversion.ofText config t).text config.layout) ::
          ((Conversion.ofText config t).records inputName).map .logged
        reports := [(Conversion.ofText config t).report inputName] } := by
  simp only [ofInput, Utf8.decode_encode, hfault]
  rfl

/-- how a conversion of the standard input ends, with `before` said before it -/
theorem Conversions.ending_ofInput {config : Config} {t : Text} (hfault : (Conversion.ofText config t).fault = none)
    (before : List Event) (notes : Report → List Event) :
    (ofInput config (Utf8.encode t) false).ending before notes =
      { events := before ++ (.converted ((Conversion.ofText config t).text config.layout) ::
          ((Conversion.ofText config t).records inputName).map .logged) ++
            notes ((Conversion.ofText config t).report inputName) } := by
  rw [ofInput_encode hfault, ending]
  simp

section

variable {w : World} {o : SettingsOptions} {config : Config}

/-- the ending of a conversion that succeeded and says what is to be said about it -/
structure Ending.Tells (e : Ending) (verbosity : Level) (isElsewhere : Bool) (r : Report) : Prop where
  code : e.code = .success
  notes : verbosity ≤ Level.info → Conversions.notes isElsewhere r <:+ e.events

variable {t : Text} (hinput : w.input = Utf8.encode t) (hsettings : w.settings o = .ok config)
  (hfault : (Conversion.ofText config t).fault = none)
include hinput hsettings hfault

/-- converted to the standard output, the text of the standard input is all that stands there -/
theorem World.convert_input (verbosity : Level) :
    (w.convert verbosity [dash] none o).Tells verbosity false
        ((Conversion.ofText config t).report Conversions.inputName) ∧
      ∀ color, (w.convert verbosity [dash] none o).events.flatMap (Event.output color) =
        (Conversion.ofText config t).text config.layout := by
  obtain ⟨before, hbefore, hshown, -⟩ := World.exists_before hsettings once_dash verbosity
  have hshown := hshown none (.inl rfl)
  rw [one_dash, hinput, Conversions.run_dash, Conversions.ending_ofInput hfault] at hshown
  simp only [reduceCtorEq, decide_false] at hshown
  rw [hshown]
  refine ⟨⟨rfl, fun htold => ?_⟩, fun color => ?_⟩
  · rw [if_pos htold]
    exact List.suffix_append ..
  · have hfirst : before.flatMap (Event.output color) = [] :=
      List.flatMap_eq_nil_iff.2 fun e he => (hbefore e he).2 color
    have hnotes : (if verbosity ≤ Level.info then
        Conversions.notes false ((Conversion.ofText config t).report Conversions.inputName) else []).flatMap
          (Event.output color) = [] :=
      List.flatMap_eq_nil_iff.2 fun e he =>
        (Conversions.isAside_of_mem_notes (List.mem_ite_nil_right.1 he).2).2 color
    simp [List.flatMap_append, hfirst, hnotes, List.flatMap_map, Event.output]

/-- converted to a file, the text of the standard input is all that the file holds -/
theorem World.convert_input_into {path : Text} {place : Place} (hpath : path ≠ []) (hdash : path ≠ dash)
    (hplace : w.tree.findWritable path = .ok place) (verbosity : Level) :
    (w.convert verbosity [dash] (some path) o).Tells verbosity true
        ((Conversion.ofText config t).report Conversions.inputName) ∧
      (w.convert verbosity [dash] (some path) o).written =
        some (place, (Conversion.ofText config t).text config.layout) := by
  obtain ⟨before, hbefore, -, hsaved⟩ := World.exists_before hsettings once_dash verbosity
  have hsaved := hsaved path place hpath hdash hplace
  rw [one_dash, hinput, Conversions.save_dash, Conversions.ending_ofInput hfault] at hsaved
  rw [hsaved, Ending.into]
  refine ⟨⟨rfl, fun htold => ?_⟩, ?_⟩
  · rw [if_pos htold, List.filter_append, List.filter_eq_self.2 fun e he => Conversions.isSaid_of_mem_notes he]
    exact List.suffix_append ..
  · have hfirst : before.flatMap Event.convertedText = [] :=
      List.flatMap_eq_nil_iff.2 fun e he => Event.convertedText_of_isSaid (hbefore e he).1
    have hnotes : (if verbosity ≤ Level.info then
        Conversions.notes true ((Conversion.ofText config t).report Conversions.inputName) else []).flatMap
          Event.convertedText = [] :=
      List.flatMap_eq_nil_iff.2 fun e he =>
        Event.convertedText_of_isSaid (Conversions.isSaid_of_mem_notes (List.mem_ite_nil_right.1 he).2)
    simp [List.flatMap_append, hfirst, hnotes, List.flatMap_map, Event.convertedText]

end

/-! ## Side by side -/

/-- **All ways to convert a text agree.** If the reserved words compile, the conversion of a text reaches its end, having
read one line for each piece between line feeds. The pieces give the same conversion however their ends are spelled, and
the same text when it is written call by call. So does a file with the text, if every carriage return stands before a line
feed, and so does the standard input: the same output, and the same context with its counts and warnings. -/
theorem entry_points_agree {config : Config} {t : Text} {pieces : List Text}
    (hwords : ∀ k ∈ config.tables.reservedWords.keys, (Pattern.read (wrappedKey k)).isOk = true)
    (hpieces : Text.LinesOf t pieces) :
    let whole := Conversion.ofText config t
    (whole.fault = none ∧ whole.final.context.lineNumber = pieces.length) ∧
    (∀ given, List.Forall₂ Text.Respelled pieces given → Conversion.ofLines config given = whole) ∧
    ((history config pieces).flatMap fun turn => turn.out.flatMap fun line => line.render config.layout ++ ['\n']) =
      whole.text config.layout ∧
    (Text.ReturnsEndLines t → ∀ tree path, FileTree.read tree (Path.tidy path) = .ok (Utf8.encode t) →
      let batch := Batch.run config tree false [path]
      batch.output = whole.text config.layout ∧ batch.reports = [whole.report (Path.tidy path)] ∧ batch.code = none) ∧
    ∀ w o, World.input w = Utf8.encode t → w.settings o = .ok config →
      (∀ tree, (Conversions.run config w.input tree false [dash]).reports = [whole.report Conversions.inputName]) ∧
      ∀ verbosity,
        ((w.convert verbosity [dash] none o).Tells verbosity false (whole.report Conversions.inputName) ∧
          ∀ color, (w.convert verbosity [dash] none o).events.flatMap (Event.output color) =
            whole.text config.layout) ∧
        ∀ path place, path ≠ [] → path ≠ dash → w.tree.findWritable path = .ok place →
          (w.convert verbosity [dash] (some path) o).Tells verbosity true (whole.report Conversions.inputName) ∧
            (w.convert verbosity [dash] (some path) o).written = some (place, whole.text config.layout) := by
  intro whole
  have hfault : whole.fault = none := ofLines_fault_eq_none_iff.2 (.inl (Tables.compile_iff.2 hwords))
  refine ⟨⟨hfault, Conversion.lineNumber_final hpieces hfault⟩, fun given hgiven => ?_,
    Conversion.flatMap_history_eq_text hpieces hfault, fun hreturns tree path hread => ?_, ?_⟩
  · exact Conversion.ofLines_respelled hpieces hgiven
  · intro batch
    have hbatch : batch = _ := (Batch.run_singleton ..).trans (Batch.file_of_read hread hreturns hfault)
    exact ⟨congrArg Batch.output hbatch, congrArg Batch.reports hbatch, congrArg Batch.code hbatch⟩
  · intro w o hinput hsettings
    refine ⟨fun tree => ?_, fun verbosity => ⟨?_, fun path place hpath hdash hplace => ?_⟩⟩
    · rw [hinput, Conversions.run_dash, Conversions.ofInput_encode hfault]
    · exact World.convert_input hinput hsettings hfault verbosity
    · exact World.convert_input_into hinput hsettings hfault hpath hdash hplace verbosity

/-- line ends of all kinds, separators that end no line, a blank line, a block string and a last line without an end -/
theorem entry_points_agree_on_mixed_ends :
    let config := Draft.standard.sanitize.complete
    let t : Text := "if a:\r\n    b = '\u2028\x0c'\n\r\nelse:\n    '''text"
    let pieces : List Text := ["if a:\r\n", "    b = '\u2028\x0c'\n", "\r\n", "else:\n", "    '''text"]
    let given : List Text := ["if a:", "    b = '\u2028\x0c'\r\n", "\r", "else:", "    '''text"]
    let whole := Conversion.ofText config t
    let world : World := { input := Utf8.encode t, tree := .ofList [("in/a.py", .file (Utf8.encode t))] }
    let o : SettingsOptions := { noConfig := true }
    Text.LinesOf t pieces ∧ Text.ReturnsEndLines t ∧ List.Forall₂ Text.Respelled pieces given ∧
      world.settings o = .ok config ∧
      whole.final.context.warnings.length = 1 ∧ Conversion.ofLines config given = whole ∧
      (Batch.run config world.tree false ["./in//a.py"]).output = whole.text config.layout ∧
      (world.convert Level.info [dash] none o).Tells Level.info false (whole.report Conversions.inputName) ∧
      (world.convert Level.info [dash] (some "a.rb") o).written = some (["a.rb".toList], whole.text config.layout) := by
  intro config t pieces given whole world o
  have hwords : ∀ k ∈ config.tables.reservedWords.keys, (Pattern.read (wrappedKey k)).isOk = true := by decide +kernel
  have hpieces : Text.LinesOf t pieces := Text.linesOf_iff.2 (by decide +kernel)
  have hreturns : Text.ReturnsEndLines t := by decide +kernel
  have hgiven : List.Forall₂ Text.Respelled pieces given :=
    .cons ⟨"if a:", ['\r', '\n'], by decide, [], by decide, rfl, rfl⟩
      (.cons ⟨"    b = '\u2028\x0c'", ['\n'], by decide, ['\r', '\n'], by decide, rfl, rfl⟩
        (.cons ⟨"\r", ['\n'], by decide, [], by decide, rfl, rfl⟩
          (.cons ⟨"else:", ['\n'], by decide, [], by decide, rfl, rfl⟩ (.cons (.same _) .nil))))
  have hsettings : world.settings o = .ok config := by decide +kernel
  obtain ⟨-, hlines, -, hfile, hinput⟩ := entry_points_agree hwords hpieces
  obtain ⟨-, hconvert⟩ := hinput world o rfl hsettings
  obtain ⟨⟨hshown, -⟩, hsaved⟩ := hconvert Level.info
  obtain ⟨-, hwritten⟩ := hsaved "a.rb" ["a.rb".toList] (by decide) (by decide) (by decide +kernel)
  obtain ⟨hbatch, -⟩ := hfile hreturns world.tree "./in//a.py" (by decide +kernel)
  have hwarnings : whole.final.context.warnings.length = 1 := by decide +kernel
  exact ⟨hpieces, hreturns, hgiven, hsettings, hwarnings, hlines given hgiven, hbatch, hshown, hwritten⟩

end Linewise
