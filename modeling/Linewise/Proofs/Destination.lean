/-
The same text, shown or saved.

The output is opened before the inputs are read, and opening it empties it. An input that does not lead there is read as
it was when the command started, so what is saved is what would have been shown. An input that leads there has lost what
it held, and is read as the empty text (`holdsText_opened`) as long as the new text stands in the buffer: nothing of it but
its heading is saved.
`saved_text_is_shown_text` says how far the two agree, `source_lost_when_saved_over` is a source converted over itself.
-/
import Linewise.Proofs.Batches

namespace Linewise

namespace FileTree

section

variable {t : FileTree} {place : Place} {path : Text}

/-- an output that a command accepts may be read, if it exists -/
theorem allows_of_checkOutput {content : Bytes} (hcheck : checkOutput t path = .ok ()) (hleads : t.LeadsTo path place)
    (hentry : t.entry? place = some (.file content)) : t.allows place .read = true := by
  rw [checkOutput, find_eq_ok_iff.2 ⟨hleads, hentry⟩] at hcheck
  cases hallowed : t.allows place .read with
  | true => rfl
  | false =>
    simp only [hallowed, Bool.not_false, if_true] at hcheck
    cases hcheck

/-- so once it is opened it may be read in any case -/
theorem allows_opened (hcheck : checkOutput t path = .ok ()) (hplace : t.findWritable path = .ok place) :
    (t.put place (.file [])).allows place .read = true := by
  obtain ⟨-, hleads, -⟩ := findWritable_eq_ok_iff.1 hplace
  rw [allows_put_self]
  cases hentry : t.entry? place with
  | none => rfl
  | some entry =>
    cases entry with
    | file content => exact allows_of_checkOutput hcheck hleads hentry
    | directory => exact absurd hentry (not_directory_of_findWritable hplace)

/-- a path to the output leads to an empty text once the output is opened -/
theorem holdsText_opened (hplace : t.entry? place ≠ some .directory)
    (hread : (t.put place (.file [])).allows place .read = true) (h : t.LeadsTo path place) :
    (t.put place (.file [])).HoldsText path [] :=
  ⟨place, [], [], find_put_of_leadsTo hplace h (.file []), hread, rfl, rfl⟩

end

end FileTree

theorem Command.checkOutput_of_check {t : FileTree} {inputs : List Text} {path : Text} {o : SettingsOptions}
    (h : (Command.convert inputs (some path) o).check t = .ok ()) : checkOutput t path = .ok () := by
  obtain ⟨_, -, hcheck⟩ :=
    bind_eq_ok_iff.1 (show (o.files.forM (checkSettingsFile t) >>= fun _ => checkOutput t path) = .ok () from h)
  exact hcheck

/-- nothing of an empty text is converted, and nothing can fail: only the heading is added -/
theorem Batch.run_around_empty {config : Config} {tree : FileTree} {withBanner : Bool} {path : Text} (p q : List Text)
    (h : tree.HoldsText (Path.tidy path) []) :
    (run config tree withBanner (p ++ path :: q)).output = (run config tree withBanner p).output ++
        (heading config withBanner path ++ (run config tree withBanner q).output) ∧
      (run config tree withBanner (p ++ path :: q)).code =
        (run config tree withBanner p).code.or (run config tree withBanner q).code := by
  have hfault : (Conversion.ofText config []).fault = none := rfl
  have htext : (Conversion.ofText config []).text config.layout = [] := rfl
  obtain ⟨houtput, -, hcode⟩ : (run config tree withBanner (p ++ path :: q)).output = _ ∧ _ :=
    run_around_text p q h hfault
  constructor
  · rw [houtput, htext, List.append_nil, List.append_assoc]
  · rw [hcode, run_append]
    rfl

/-- files add what each of them comes to by itself, from the disk as it is by then -/
theorem Conversions.text_along_files (config : Config) (input : Bytes) (withBanner : Bool) (disk : Text → FileTree)
    {inputs : List Text} (hfiles : dash ∉ inputs) (before : Text) :
    before ++ (along (fun before path => one config input (disk before) withBanner path) before inputs).text =
      inputs.foldl (fun before path => before ++ (Batch.file config (disk before) withBanner path).output) before := by
  induction inputs generalizing before with
  | nil => exact List.append_nil before
  | cons path rest ih =>
    have hdash : path ≠ dash := fun hpath => hfiles (hpath ▸ List.mem_cons_self)
    have hone : one config input (disk before) withBanner path = ofFile config (disk before) withBanner path := if_neg hdash
    have hrest := ih (fun hmem => hfiles (List.mem_cons_of_mem _ hmem))
      (before ++ (ofFile config (disk before) withBanner path).text)
    rw [along_cons, hone, if_neg (by simp [ofFile]), text_append, ← List.append_assoc, hrest, text_ofFile,
      List.foldl_cons]

/-- **What is saved is what is shown, as long as no input is the output.** Then the file gets the text that the command
without an output writes to the standard output, from the same tree; and the codes are the same, unless the file is new
and an input goes through it. In any case each file adds what it comes to when the output has lost what it held and the
text before has reached it, but for what is in the buffer. So an input that is the output adds its heading and nothing
else if all of the text fits into the buffer: a single one leaves an empty file, and the command succeeds. -/
theorem saved_text_is_shown_text {w : World} {shownArguments savedArguments : List Text} {inputs : List Text}
    {path : Text} {o : SettingsOptions} {config : Config} {place : Place}
    (hshown : w.Accepts shownArguments (.convert inputs none o))
    (hsaved : w.Accepts savedArguments (.convert inputs (some path) o))
    (honce : inputs.count dash ≤ 1) (hsettings : w.settings o = .ok config) (hpath : path ≠ []) (hdash : path ≠ dash)
    (hplace : w.tree.findWritable path = .ok place) :
    let shown := w.run shownArguments
    let saved := (w.run savedArguments).ending
    let opened := w.tree.put place (.file [])
    ((∀ input ∈ inputs, input ≠ dash → ¬ w.tree.LeadsTo (Path.tidy input) place) →
      saved.written = some (place, shown.output) ∧
      ((w.tree.entry? place).isSome = true ∨
          (∀ input ∈ inputs, input ≠ dash → ¬ w.tree.Meets (Path.tidy input) place) →
        saved.code = shown.ending.code)) ∧
    (dash ∉ inputs →
      saved.written = some (place, inputs.foldl (fun before input =>
        let disk := opened.put place (.file (Conversions.flushed before))
        before ++ (Batch.file config disk (1 < inputs.length) input).output) []) ∧
      ∀ before input after, inputs = before ++ input :: after → w.tree.LeadsTo (Path.tidy input) place →
        let run := Batch.run config opened (1 < inputs.length)
        (Utf8.encode (run inputs).output).length < Conversions.bufferSize →
        saved.written = some (place, (run before).output ++ (Batch.heading config (1 < inputs.length) input ++
          (run after).output)) ∧
        saved.code = ((run before).code.or (run after).code).getD .success) := by
  intro shown saved opened
  have hdirectory := FileTree.not_directory_of_findWritable hplace
  have hread := FileTree.allows_opened (Command.checkOutput_of_check hsaved.check) hplace
  obtain ⟨houtput, hshownCode⟩ := hshown.shows honce hsettings rfl
  obtain ⟨hwritten, hsavedCode⟩ := hsaved.saves honce hsettings hpath hdash hplace
  refine ⟨fun hapart => ?_, ?_⟩
  · rw [Conversions.save_opened _ _ _ hdirectory hapart] at hwritten hsavedCode
    refine ⟨?_, fun hthrough => ?_⟩
    · rw [hwritten, houtput, Conversions.text_run_opened _ _ _ hdirectory hapart]
    · rw [hsavedCode, hshownCode, Conversions.run_opened _ _ _ hdirectory hapart hthrough]
  · intro hfiles
    have hall := Conversions.text_along_files config w.input (1 < inputs.length)
      (fun before => opened.put place (.file (Conversions.flushed before))) hfiles []
    refine ⟨hwritten.trans (congrArg (fun text => some (place, text)) hall), ?_⟩
    intro before input after hinputs hleads run hshort
    obtain ⟨htext, hcode⟩ := Conversions.run_files config w.input (1 < inputs.length) opened hfiles
    rw [← htext] at hshort
    rw [Conversions.save_of_short _ _ _ (FileTree.entry?_put_self hdirectory) hshort] at hwritten hsavedCode
    obtain ⟨hheading, hothers⟩ : (run (before ++ input :: after)).output = _ ∧ _ :=
      Batch.run_around_empty before after (FileTree.holdsText_opened hdirectory hread hleads)
    have hrun : run inputs = run (before ++ input :: after) := congrArg run hinputs
    have hsavedText : saved.written = some (place, (run inputs).output) := by rw [hwritten, htext]
    have hsavedCode : saved.code = (run inputs).code.getD .success := hsavedCode.trans hcode
    constructor
    · rw [hsavedText, hrun, hheading]
    · rw [hsavedCode, hrun, hothers]

/-- a file and the standard input, saved in a new file; and two files, saved over the second -/
theorem saved_text_is_shown_text_twice :
    let w : World :=
      { input := Utf8.encode "y = None"
        tree := .ofList [("a.py", .file (Utf8.encode "x = None\n")), ("b.py", .file (Utf8.encode "z = None\n"))] }
    let config := Draft.standard.sanitize.complete
    let created := (w.run ["convert", "--no-config", "a.py", "-", "-oc.rb"]).ending
    let both : List Text := ["a.py", "./b.py"]
    let replaced := (w.run ("convert" :: "--no-config" :: "-ob.py" :: both)).ending
    let run := Batch.run config (w.tree.put ["b.py".toList] (.file [])) (1 < both.length)
    created.written = some (["c.rb".toList], (w.run ["convert", "--no-config", "a.py", "-"]).output) ∧
      created.code = .success ∧
      replaced.written = some (["b.py".toList], (run ["a.py"]).output ++
        (Batch.heading config (1 < both.length) "./b.py" ++ (run []).output)) ∧
      replaced.code = .success := by
  intro w config created both replaced run
  let o : SettingsOptions := { noConfig := true }
  have hsettings : w.settings o = .ok config := by decide +kernel
  have hcreated : w.Accepts ["convert", "--no-config", "a.py", "-", "-oc.rb"] (.convert ["a.py", dash] (some "c.rb") o) :=
    ⟨by decide +kernel, by decide +kernel, by decide +kernel⟩
  have hshown : w.Accepts ["convert", "--no-config", "a.py", "-"] (.convert ["a.py", dash] none o) :=
    ⟨by decide +kernel, by decide +kernel, by decide +kernel⟩
  have hreplaced : w.Accepts ("convert" :: "--no-config" :: "-ob.py" :: both) (.convert both (some "b.py") o) :=
    ⟨by decide +kernel, by decide +kernel, by decide +kernel⟩
  have hboth : w.Accepts ("convert" :: "--no-config" :: both) (.convert both none o) :=
    ⟨by decide +kernel, by decide +kernel, by decide +kernel⟩
  have hnew : w.tree.findWritable "c.rb" = .ok ["c.rb".toList] := by decide +kernel
  have hold : w.tree.findWritable "b.py" = .ok ["b.py".toList] := by decide +kernel
  obtain ⟨hapart, -⟩ :=
    saved_text_is_shown_text hshown hcreated (by decide) hsettings (by decide) (by decide) hnew
  obtain ⟨hcreatedText, -⟩ := hapart (by decide +kernel)
  have hcreatedCode : created.code = .success := by decide +kernel
  obtain ⟨-, hlost⟩ := saved_text_is_shown_text hboth hreplaced (by decide) hsettings (by decide) (by decide) hold
  obtain ⟨-, hlost⟩ := hlost (by decide)
  obtain ⟨hreplacedText, -⟩ := hlost ["a.py"] "./b.py" [] rfl (by decide +kernel) (by decide +kernel)
  have hreplacedCode : replaced.code = .success := by decide +kernel
  exact ⟨hcreatedText, hcreatedCode, hreplacedText, hreplacedCode⟩

/-- a source that is converted over itself: all of it would be shown, nothing is saved -/
theorem source_lost_when_saved_over :
    let w : World := { tree := .ofList [("a.py", .file (Utf8.encode "x = None\n"))] }
    let saved := (w.run ["convert", "a.py", "-o", "a.py"]).ending
    (w.run ["convert", "a.py"]).output = "x = nil\n".toList ∧ saved.written = some (["a.py".toList], []) ∧
      saved.code = .success := by
  decide +kernel

/-- the output is the source under another name -/
example :
    let tree := FileTree.ofList [("a.py", .file (Utf8.encode "x = None\n"))]
    let w : World := { tree := { tree with aliases := [(["b.py"], ["a.py"])] } }
    (w.run ["convert", "a.py", "-o", "b.py"]).ending.written = some (["a.py".toList], []) := by
  decide +kernel

end Linewise
