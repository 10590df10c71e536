/-
Batches of files, and `convert` on files.

What a file adds to a batch depends on what its path leads to and on nothing else. A path without a text leaves nothing
but a code (`Batch.run_around_failure`), a text adds its heading and what it is converted to (`Batch.run_around_text`). So
a conversion depends on the texts of its files only, and opening an output that is none of them changes nothing
(`Conversions.text_run_opened`). `convert` goes through its inputs one at a time; over files that comes to one batch
(`Conversions.run_files`). `batches_compose` has it all together; `path_through_new_output` is a command that ends with
another code than its batch, since its output is there when its input is looked up.
-/
import Linewise.Proofs.Endings
import Linewise.Proofs.FileTrees

namespace Linewise

/-! ## One file -/

namespace Batch

/-- what stands before the text of a file -/
def heading (config : Config) (withBanner : Bool) (path : Text) : Text :=
  if withBanner then banner config.layout (Path.tidy path) else []

section

variable {config : Config} {tree tree' : FileTree} {withBanner : Bool} {path text : Text}

theorem file_of_holdsText (h : tree.HoldsText (Path.tidy path) text) :
    file config tree withBanner path = ofText config (heading config withBanner path) (Path.tidy path) text := by
  simp only [file, FileTree.readText_eq_ok_iff.2 h, heading]

/-- a text whose conversion reaches its end -/
theorem ofText_of_fault_none {heading source : Text} (h : (Conversion.ofText config text).fault = none) :
    ofText config heading source text =
      { output := heading ++ (Conversion.ofText config text).text config.layout
        reports := [⟨source, (Conversion.ofText config text).final.context⟩]
        records := (Conversion.ofText config text).records source } := by
  simp only [ofText, h]

/-- a path without a text: nothing is there, or a directory, or bytes that are no text -/
theorem file_of_not_holdsText (h : ∀ text, ¬ tree.HoldsText (Path.tidy path) text) (config : Config)
    (withBanner : Bool) : ∃ failure, file config tree withBanner path = failed (Path.tidy path) [] failure := by
  rw [file]
  cases hread : tree.readText (Path.tidy path) with
  | error fault => exact ⟨.unreadable fault, rfl⟩
  | ok decoded =>
    cases decoded with
    | error fault => exact ⟨.undecodable fault, rfl⟩
    | ok text => exact absurd (FileTree.readText_eq_ok_iff.1 hread) (h text)

/-- the output of a file depends on its text only -/
theorem output_file_congr
    (h : ∀ text, tree.HoldsText (Path.tidy path) text ↔ tree'.HoldsText (Path.tidy path) text) (config : Config)
    (withBanner : Bool) :
    (file config tree withBanner path).output = (file config tree' withBanner path).output := by
  by_cases htext : ∃ text, tree.HoldsText (Path.tidy path) text
  · obtain ⟨text, htext⟩ := htext
    rw [file_of_holdsText htext, file_of_holdsText ((h text).1 htext)]
  · rw [not_exists] at htext
    have htext' : ∀ text, ¬ tree'.HoldsText (Path.tidy path) text := fun text hput => htext text ((h text).2 hput)
    obtain ⟨failure, hfile⟩ := file_of_not_holdsText htext config withBanner
    obtain ⟨failure', hfile'⟩ := file_of_not_holdsText htext' config withBanner
    rw [hfile, hfile']
    rfl

end

end Batch

/-! ## Files one after another -/

namespace Conversions

theorem text_append (a b : Conversions) : (a.append b).text = a.text ++ b.text := List.flatMap_append

theorem text_ofFile (config : Config) (tree : FileTree) (withBanner : Bool) (path : Text) :
    (ofFile config tree withBanner path).text = (Batch.file config tree withBanner path).output := by
  set batch := Batch.file config tree withBanner path with hbatch
  have hrecords : (batch.records.map Event.logged).flatMap Event.convertedText = [] :=
    List.flatMap_eq_nil_iff.2 fun e he => by
      obtain ⟨record, -, rfl⟩ := List.mem_map.1 he
      rfl
  have hfailed : (batch.code.map fun code =>
      Event.failed ("Error: cannot translate " ++ path ++ " (" ++ code.name ++ ")")).toList.flatMap
        Event.convertedText = [] :=
    List.flatMap_eq_nil_iff.2 fun e he => by
      obtain ⟨code, -, rfl⟩ := Option.map_eq_some_iff.1 (Option.mem_toList.1 he)
      rfl
  rw [text, ofFile, ← hbatch]
  simp only [List.cons_append, List.flatMap_cons, List.flatMap_append, hrecords, hfailed, List.append_nil]
  rfl

section

variable (config : Config) (input : Bytes) (withBanner : Bool) {tree tree' : FileTree} {path : Text} {inputs : List Text}

/-- a file never stops the conversion -/
theorem run_cons_of_ne (hdash : path ≠ dash) :
    run config input tree withBanner (path :: inputs) =
      (ofFile config tree withBanner path).append (run config input tree withBanner inputs) := by
  have hone : one config input tree withBanner path = ofFile config tree withBanner path := if_neg hdash
  rw [run_cons, hone]
  rfl

/-- the text of a conversion depends on the texts of its files only -/
theorem text_run_congr
    (h : ∀ path ∈ inputs, path ≠ dash →
      ∀ text, tree.HoldsText (Path.tidy path) text ↔ tree'.HoldsText (Path.tidy path) text) :
    (run config input tree withBanner inputs).text = (run config input tree' withBanner inputs).text := by
  induction inputs with
  | nil => rfl
  | cons path rest ih =>
    have hrest := ih fun other hother => h other (List.mem_cons_of_mem _ hother)
    by_cases hdash : path = dash
    · simp only [run_cons, one, if_pos hdash]
      split
      · rfl
      · rw [text_append, text_append, hrest]
    · have hfile := Batch.output_file_congr (h path List.mem_cons_self hdash) config withBanner
      rw [run_cons_of_ne _ _ _ hdash, run_cons_of_ne _ _ _ hdash, text_append, text_append, text_ofFile, text_ofFile, hfile,
        hrest]

/-- all of it depends on what reading its files gives -/
theorem one_congr (h : path ≠ dash → tree.readText (Path.tidy path) = tree'.readText (Path.tidy path)) :
    one config input tree withBanner path = one config input tree' withBanner path := by
  rw [one, one]
  split
  · rfl
  · rename_i hdash
    simp only [ofFile, Batch.file, h hdash]

theorem along_congr {convert convert' : Text → Text → Conversions}
    (h : ∀ before, ∀ path ∈ inputs, convert before path = convert' before path) (before : Text) :
    along convert before inputs = along convert' before inputs := by
  induction inputs generalizing before with
  | nil => rfl
  | cons path rest ih =>
    have hrest := ih fun before other hother => h before other (List.mem_cons_of_mem _ hother)
    rw [along_cons, along_cons, h before path List.mem_cons_self, hrest]

theorem run_congr
    (h : ∀ path ∈ inputs, path ≠ dash → tree.readText (Path.tidy path) = tree'.readText (Path.tidy path)) :
    run config input tree withBanner inputs = run config input tree' withBanner inputs :=
  along_congr (fun _ path hpath => one_congr config input withBanner (h path hpath)) []

/-- opening an output that none of the files is leaves the text as it was -/
theorem text_run_opened {place : Place} (hplace : tree.entry? place ≠ some .directory)
    (hapart : ∀ path ∈ inputs, path ≠ dash → ¬ tree.LeadsTo (Path.tidy path) place) :
    (run config input (tree.put place (.file [])) withBanner inputs).text =
      (run config input tree withBanner inputs).text :=
  text_run_congr config input withBanner fun path hpath hdash _ =>
    FileTree.holdsText_put_iff hplace (hapart path hpath hdash) []

/-- and everything, if it is not new or none of the files goes through it -/
theorem run_opened {place : Place} (hplace : tree.entry? place ≠ some .directory)
    (hapart : ∀ path ∈ inputs, path ≠ dash → ¬ tree.LeadsTo (Path.tidy path) place)
    (hthrough : (tree.entry? place).isSome = true ∨
      (∀ path ∈ inputs, path ≠ dash → ¬ tree.Meets (Path.tidy path) place)) :
    run config input (tree.put place (.file [])) withBanner inputs = run config input tree withBanner inputs :=
  run_congr config input withBanner fun path hpath hdash =>
    FileTree.readText_put hplace (hapart path hpath hdash) (hthrough.imp_right fun h => h path hpath hdash) []

/-- what reaches the output while it is written is read by no file that does not lead there -/
theorem save_opened {place : Place} (hplace : tree.entry? place ≠ some .directory)
    (hapart : ∀ path ∈ inputs, path ≠ dash → ¬ tree.LeadsTo (Path.tidy path) place) :
    save config input (tree.put place (.file [])) place withBanner inputs =
      run config input (tree.put place (.file [])) withBanner inputs := by
  have hopened : FileTree.entry? (tree.put place (.file [])) place = some (.file []) := FileTree.entry?_put_self hplace
  refine along_congr (fun before path hpath => one_congr config input withBanner fun hdash => ?_) []
  refine FileTree.readText_put ?_ (fun hleads => hapart path hpath hdash (FileTree.leadsTo_of_put hplace hleads))
    (.inl ?_) (flushed before)
  · rw [hopened]
    rintro ⟨⟩
  · rw [hopened]
    rfl

/-- nothing leaves the buffer before it is full -/
theorem flushedSize_eq_zero {held : Nat} {t : Text} (h : held + (Utf8.encode t).length < bufferSize) :
    flushedSize held t = 0 := by
  induction t generalizing held with
  | nil => rfl
  | cons c rest ih =>
    rw [Utf8.encode, List.flatMap_cons, List.length_append, ← Nat.add_assoc] at h
    have hheld : ¬ bufferSize ≤ held + (Utf8.encodeChar c).length := by omega
    rw [flushedSize, decide_eq_false hheld, Bool.and_false, if_neg Bool.false_ne_true]
    exact ih h

/-- so a short text is all converted while the output is empty -/
theorem save_of_short {place : Place} (hplace : tree.entry? place = some (.file []))
    (hshort : (Utf8.encode (run config input tree withBanner inputs).text).length < bufferSize) :
    save config input tree place withBanner inputs = run config input tree withBanner inputs := by
  suffices hall : ∀ before,
      (Utf8.encode (before ++ (run config input tree withBanner inputs).text)).length < bufferSize →
      along (fun before path => one config input (tree.put place (.file (flushed before))) withBanner path) before
        inputs = run config input tree withBanner inputs from hall [] hshort
  clear hshort
  induction inputs with
  | nil => exact fun before _ => rfl
  | cons path rest ih =>
    intro before hshort
    have hnothing : flushed before = [] := by
      rw [Utf8.encode, List.flatMap_append, List.length_append] at hshort
      rw [flushed, flushedSize_eq_zero (by rw [Nat.zero_add]; exact Nat.lt_of_le_of_lt (Nat.le_add_right _ _) hshort),
        List.take_zero]
    have hone : one config input (tree.put place (.file (flushed before))) withBanner path =
        one config input tree withBanner path := by
      rw [hnothing]
      exact one_congr config input withBanner fun _ => FileTree.readText_put_self hplace
    rw [run_cons] at hshort ⊢
    rw [along_cons, hone]
    split
    · rfl
    · rename_i hgoes
      rw [if_neg hgoes, text_append, ← List.append_assoc] at hshort
      rw [ih _ hshort]

/-- files one at a time come to one batch -/
theorem run_files (tree : FileTree) (hfiles : dash ∉ inputs) :
    let c := run config input tree withBanner inputs
    let batch := Batch.run config tree withBanner inputs
    c.text = batch.output ∧ c.exitCode = batch.code.getD .success := by
  have hall : (run config input tree withBanner inputs).text = (Batch.run config tree withBanner inputs).output ∧
      (run config input tree withBanner inputs).code = (Batch.run config tree withBanner inputs).code ∧
      (run config input tree withBanner inputs).halt = none := by
    induction inputs with
    | nil => exact ⟨rfl, rfl, rfl⟩
    | cons path rest ih =>
      have hdash : path ≠ dash := fun hpath => hfiles (hpath ▸ List.mem_cons_self)
      obtain ⟨htext, hcode, hhalt⟩ := ih fun hmem => hfiles (List.mem_cons_of_mem _ hmem)
      rw [run_cons_of_ne _ _ _ hdash, text_append, text_ofFile, htext, append, hcode, hhalt]
      exact ⟨rfl, rfl, rfl⟩
  obtain ⟨htext, hcode, hhalt⟩ := hall
  refine ⟨htext, ?_⟩
  rw [exitCode, hhalt, hcode]

end

end Conversions

/-! ## A file among others -/

namespace Batch

section

variable {config : Config} {tree : FileTree} {withBanner : Bool} {path text : Text} (p q : List Text)

theorem run_middle (path : Text) :
    run config tree withBanner (p ++ path :: q) =
      run config tree withBanner p ++ (file config tree withBanner path ++ run config tree withBanner q) :=
  run_append config tree withBanner p (path :: q)

/-- a path without a text leaves nothing but a code -/
theorem run_around_failure (h : ∀ text, ¬ tree.HoldsText (Path.tidy path) text) :
    (run config tree withBanner (p ++ path :: q)).output = (run config tree withBanner (p ++ q)).output ∧
      (run config tree withBanner (p ++ path :: q)).reports = (run config tree withBanner (p ++ q)).reports ∧
      (run config tree withBanner (p ++ path :: q)).code.isSome = true := by
  obtain ⟨failure, hfile⟩ := file_of_not_holdsText h config withBanner
  rw [run_middle, run_append, hfile]
  refine ⟨rfl, rfl, ?_⟩
  show ((run config tree withBanner p).code.or ((some failure.code).or (run config tree withBanner q).code)).isSome = true
  simp

/-- behind a symbolic link, a file that may not be read -/
example :
    let tree := ((FileTree.ofList [("a.py", .file (Utf8.encode "x"))]).putLink ["b.py".toList] "./a.py").deny ["a.py"] .read
    let batch := run Draft.standard.complete tree true ["b.py"]
    batch.output = [] ∧ batch.code = some .permissionDenied ∧ batch.records.map Record.message =
      ["Permission denied: b.py ([Errno 13] Permission denied: 'b.py')".toList] := by
  decide +kernel

/-- a text whose conversion reaches its end adds its heading and what it is converted to -/
theorem run_around_text (htext : tree.HoldsText (Path.tidy path) text)
    (hfault : (Conversion.ofText config text).fault = none) :
    (run config tree withBanner (p ++ path :: q)).output = (run config tree withBanner p).output ++
        (heading config withBanner path ++ (Conversion.ofText config text).text config.layout) ++
          (run config tree withBanner q).output ∧
      (run config tree withBanner (p ++ path :: q)).reports = (run config tree withBanner p).reports ++
        ⟨Path.tidy path, (Conversion.ofText config text).final.context⟩ :: (run config tree withBanner q).reports ∧
      (run config tree withBanner (p ++ path :: q)).code = (run config tree withBanner (p ++ q)).code := by
  rw [run_middle, run_append, file_of_holdsText htext, ofText_of_fault_none hfault]
  refine ⟨(List.append_assoc ..).symm, rfl, ?_⟩
  show (run config tree withBanner p).code.or ((none : Option ExitCode).or (run config tree withBanner q).code) =
    (run config tree withBanner p).code.or (run config tree withBanner q).code
  rw [Option.none_or]

end

end Batch

/-! ## The command on files -/

section

variable {w : World} {arguments inputs : List Text} {output : Option Text} {o : SettingsOptions} {config : Config}
  (hsettings : w.settings o = .ok config) (hfiles : dash ∉ inputs)
include hsettings hfiles

theorem World.Accepts.shows_files (h : w.Accepts arguments (.convert inputs output o)) :
    let batch := Batch.run config w.tree (1 < inputs.length) inputs
    (output.getD [] = [] →
      (w.run arguments).output = batch.output ∧ (w.run arguments).ending.code = batch.code.getD .success) ∧
    (output = some dash →
      (w.run arguments).ending.events.flatMap Event.convertedText = batch.output ∧
        (w.run arguments).ending.code = batch.code.getD .success) := by
  intro batch
  have honce : inputs.count dash ≤ 1 := List.count_eq_zero.2 hfiles ▸ Nat.zero_le 1
  obtain ⟨houtput, hcode⟩ := Conversions.run_files config w.input (1 < inputs.length) w.tree hfiles
  constructor
  · intro hshown
    obtain ⟨hout, hend⟩ := h.shows honce hsettings hshown
    exact ⟨hout.trans houtput, hend.trans hcode⟩
  · rintro rfl
    obtain ⟨hout, hend⟩ := h.shows_dash honce hsettings
    exact ⟨hout.trans houtput, hend.trans hcode⟩

/-- in a file that none of them is -/
theorem World.Accepts.saves_files {path : Text} {place : Place}
    (h : w.Accepts arguments (.convert inputs (some path) o)) (hpath : path ≠ []) (hdash : path ≠ dash)
    (hplace : w.tree.findWritable path = .ok place)
    (hapart : ∀ input ∈ inputs, ¬ w.tree.LeadsTo (Path.tidy input) place) :
    let batch := Batch.run config w.tree (1 < inputs.length) inputs
    let opened := w.tree.put place (.file [])
    (w.run arguments).ending.written = some (place, batch.output) ∧
    (w.run arguments).ending.code = (Batch.run config opened (1 < inputs.length) inputs).code.getD .success ∧
    ((w.tree.entry? place).isSome = true ∨ (∀ input ∈ inputs, ¬ w.tree.Meets (Path.tidy input) place) →
      (w.run arguments).ending.code = batch.code.getD .success) := by
  intro batch opened
  have honce : inputs.count dash ≤ 1 := List.count_eq_zero.2 hfiles ▸ Nat.zero_le 1
  have hdirectory := FileTree.not_directory_of_findWritable hplace
  have hothers : ∀ input ∈ inputs, input ≠ dash → ¬ w.tree.LeadsTo (Path.tidy input) place :=
    fun input hinput _ => hapart input hinput
  obtain ⟨hwritten, hend⟩ := h.saves honce hsettings hpath hdash hplace
  rw [Conversions.save_opened _ _ _ hdirectory hothers] at hwritten hend
  obtain ⟨houtput, hcode⟩ := Conversions.run_files config w.input (1 < inputs.length) w.tree hfiles
  obtain ⟨-, hcodeOpened⟩ := Conversions.run_files config w.input (1 < inputs.length) opened hfiles
  refine ⟨?_, hend.trans hcodeOpened, fun hthrough => ?_⟩
  · rw [hwritten, Conversions.text_run_opened _ _ _ hdirectory hothers, houtput]
  · have hothersThrough := hthrough.imp_right fun hmeets input hinput (_ : input ≠ dash) => hmeets input hinput
    rw [hend, Conversions.run_opened _ _ _ hdirectory hothers hothersThrough, hcode]

end

/-! ## Batches -/

/-- **Batches compose, and `convert` on files is one batch.** Two lists of files, one after the other, give the output of
the first and then that of the second, and so with the reports; the code is that of the first failure. A path that holds
no text leaves nothing but a code; one with a text whose conversion reaches its end adds the line that names it, if there
are such lines, and the converted text, whatever stands around it. `convert` on files writes what one batch of them
writes and ends with its code: to the standard output, and to a file that none of them is. If the file is new and a path
goes through it, that path is looked up when the file is there. -/
theorem batches_compose (config : Config) :
    (∀ tree withBanner p q,
      let run := Batch.run config tree withBanner
      ((run (p ++ q)).output = (run p).output ++ (run q).output ∧
        (run (p ++ q)).reports = (run p).reports ++ (run q).reports ∧
        (run (p ++ q)).code = (run p).code.or (run q).code) ∧
      ∀ path,
        ((∀ text, ¬ tree.HoldsText (Path.tidy path) text) →
          (run (p ++ path :: q)).output = (run (p ++ q)).output ∧
          (run (p ++ path :: q)).reports = (run (p ++ q)).reports ∧
          (run (p ++ path :: q)).code.isSome = true) ∧
        ∀ text, tree.HoldsText (Path.tidy path) text → (Conversion.ofText config text).fault = none →
          let heading := if withBanner then config.layout.commentPrefix ++ " ==> " ++ Path.tidy path ++ " <==\n" else []
          (run (p ++ path :: q)).output = (run p).output ++
            (heading ++ (Conversion.ofText config text).text config.layout) ++ (run q).output ∧
          (run (p ++ path :: q)).reports = (run p).reports ++
            ⟨Path.tidy path, (Conversion.ofText config text).final.context⟩ :: (run q).reports ∧
          (run (p ++ path :: q)).code = (run (p ++ q)).code) ∧
    ∀ (w : World) (o : SettingsOptions) (inputs : List Text), w.settings o = .ok config → dash ∉ inputs →
      let batch := Batch.run config w.tree (1 < inputs.length) inputs
      ∀ arguments output, w.Accepts arguments (.convert inputs output o) →
        (output.getD [] = [] →
          (w.run arguments).output = batch.output ∧ (w.run arguments).ending.code = batch.code.getD .success) ∧
        (output = some dash →
          (w.run arguments).ending.events.flatMap Event.convertedText = batch.output ∧
            (w.run arguments).ending.code = batch.code.getD .success) ∧
        ∀ path place, output = some path → path ≠ [] → path ≠ dash → w.tree.findWritable path = .ok place →
          (∀ input ∈ inputs, ¬ w.tree.LeadsTo (Path.tidy input) place) →
          let opened := w.tree.put place (.file [])
          (w.run arguments).ending.written = some (place, batch.output) ∧
          (w.run arguments).ending.code = (Batch.run config opened (1 < inputs.length) inputs).code.getD .success ∧
          ((w.tree.entry? place).isSome = true ∨ (∀ input ∈ inputs, ¬ w.tree.Meets (Path.tidy input) place) →
            (w.run arguments).ending.code = batch.code.getD .success) := by
  constructor
  · intro tree withBanner p q run
    have happend : run (p ++ q) = run p ++ run q := Batch.run_append config tree withBanner p q
    refine ⟨⟨?_, ?_, ?_⟩, fun path => ⟨Batch.run_around_failure p q, fun text => Batch.run_around_text p q⟩⟩
    · rw [happend]
      rfl
    · rw [happend]
      rfl
    · rw [happend]
      rfl
  · intro w o inputs hsettings hfiles batch arguments output haccepts
    obtain ⟨hshown, hdash⟩ := haccepts.shows_files hsettings hfiles
    refine ⟨hshown, hdash, ?_⟩
    rintro path place rfl hpath hdash hplace hapart
    exact haccepts.saves_files hsettings hfiles hpath hdash hplace hapart

/-- a text between a missing file and bytes that are no text, as batches and as a command that saves its output -/
theorem batches_compose_around_failures :
    let config := Draft.standard.sanitize.complete
    let text : Text := "if a:\n    b\n"
    let tree : FileTree := .ofList
      [("a.py", .file (Utf8.encode "if a:\r\n    b\r\n")), ("bad.py", .file [0x61, 0xff]), ("c.py", .file [0x63])]
    let before : List Text := ["missing.py"]
    let after : List Text := ["bad.py", "./c.py"]
    let inputs := before ++ "a.py".toList :: after
    let run := Batch.run config tree true
    let w : World := { tree }
    let saved := w.run ("convert" :: "--no-config" :: "-oc.rb" :: inputs)
    tree.HoldsText "a.py" text ∧ (Conversion.ofText config text).fault = none ∧
      (run inputs).output = (run before).output ++
        ("# ==> a.py <==\n" ++ (Conversion.ofText config text).text config.layout) ++ (run after).output ∧
      (∀ text, ¬ tree.HoldsText "bad.py" text) ∧ (run after).output = (run after.tail).output ∧
      saved.ending.written = some (["c.rb".toList], (run inputs).output) ∧
      (run inputs).code = some .fileNotFound ∧ saved.ending.code = .fileNotFound := by
  intro config text tree before after inputs run w saved
  have htext : tree.HoldsText (Path.tidy "a.py") text := FileTree.readText_eq_ok_iff.1 (by decide +kernel)
  have hfault : (Conversion.ofText config text).fault = none := by decide +kernel
  have hbad : ∀ text, ¬ tree.HoldsText (Path.tidy "bad.py") text := by
    intro text hbad
    have hread : (tree.readText (Path.tidy "bad.py")).toOption.bind Except.toOption = none := by decide +kernel
    rw [FileTree.readText_eq_ok_iff.2 hbad] at hread
    cases hread
  have hsettings : w.settings { noConfig := true } = .ok config := by decide +kernel
  have haccepts : w.Accepts ("convert" :: "--no-config" :: "-oc.rb" :: inputs)
      (.convert inputs (some "c.rb") { noConfig := true }) :=
    ⟨by decide +kernel, by decide +kernel, by decide +kernel⟩
  obtain ⟨hbatches, hcommand⟩ := batches_compose config
  obtain ⟨-, hmiddle⟩ := hbatches tree true before after
  obtain ⟨-, haround⟩ := hbatches tree true [] after.tail
  obtain ⟨-, -, hsaved⟩ := hcommand w { noConfig := true } inputs hsettings (by decide) _ _ haccepts
  obtain ⟨hwritten, -, hcode⟩ := hsaved "c.rb" ["c.rb".toList] rfl (by decide) (by decide) (by decide +kernel)
    (by decide +kernel)
  have hfirst : (run inputs).code = some .fileNotFound := by decide +kernel
  have hended : saved.ending.code = (run inputs).code.getD .success := hcode (.inr (by decide +kernel))
  refine ⟨htext, hfault, ((hmiddle "a.py").2 text htext hfault).1, hbad, ((haround "bad.py").1 hbad).1, hwritten,
    hfirst, ?_⟩
  rw [hended, hfirst]
  rfl

/-- the input of a command goes through its new output: on the given tree nothing is there, but the output is opened before
the input is looked up, and then the path goes through a file -/
theorem path_through_new_output :
    let w : World := { tree := .ofList [("a.py", .file (Utf8.encode "y = 1\n"))] }
    let config := Draft.standard.sanitize.complete
    let session := w.run ["convert", "-o", "x", "x/../a.py"]
    let batch := Batch.run config w.tree false ["x/../a.py"]
    w.settings {} = .ok config ∧ session.ending.written = some (["x".toList], batch.output) ∧
      batch.code = some .fileNotFound ∧ session.ending.code = .pipelineError := by
  decide +kernel

end Linewise
