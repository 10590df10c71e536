/-
The same bytes on the standard input and in a file: the codes.

Bytes can fail in two ways: they are no text, or a statement of their text cannot be converted. A file is read before it
is converted, and both failures have codes of their own (`ExitCode.ofFile`). The standard input is converted as it
arrives, so that a statement can fail before bytes that are no text are met, and that failure is not foreseen
(`ExitCode.ofInput`). `input_and_file_codes`: the codes agree just if no statement fails, and so for all bytes if the
reserved words compile.
-/
import Linewise.Proofs.Batches
import Linewise.Proofs.EntryPoints

namespace Linewise

/-- whether the end of the input is still to come makes no difference to what fails before it -/
theorem Conversion.fault_feedAll (config : Config) (a : Assembler) (lines : List Text) :
    (feedAll config a lines).fault = (run config a lines).fault := by
  induction lines generalizing a with
  | nil => rfl
  | cons line rest ih =>
    rw [feedAll, run]
    split
    · rfl
    · exact ih _

/-- the code of a command that converts a file with the bytes -/
def ExitCode.ofFile (config : Config) (b : Bytes) : ExitCode :=
  match Utf8.decode b with
  | .error _ => .encodingError
  | .ok text => if (Conversion.ofText config text.universalNewlines).fault.isSome then .pipelineError else .success

/-- the code of a command that converts the bytes as they arrive -/
def ExitCode.ofInput (config : Config) (b : Bytes) : ExitCode :=
  match Utf8.decode b with
  | .error fault =>
    let lines := Text.wholeLines (Utf8.readBefore b fault).1
    if (Conversion.ofLines config lines).fault.isSome then .failure else .encodingError
  | .ok text => if (Conversion.ofText config text).fault.isSome then .failure else .success

section

variable {config : Config}

theorem Conversions.exitCode_input (config : Config) (b : Bytes) (tree : FileTree) (withBanner : Bool) :
    (run config b tree withBanner [dash]).exitCode = .ofInput config b := by
  rw [run_dash, exitCode, ExitCode.ofInput, ofInput]
  cases Utf8.decode b with
  | error fault =>
    have hfed := Conversion.fault_feedAll config {} (Text.wholeLines (Utf8.readBefore b fault).1)
    rw [← Conversion.ofLines] at hfed
    cases hfault : (Conversion.ofLines config (Text.wholeLines (Utf8.readBefore b fault).1)).fault <;>
      simp only [hfed, hfault] <;> rfl
  | ok text =>
    cases hfault : (Conversion.ofText config text).fault <;> simp only [hfault] <;> rfl

theorem Conversions.exitCode_file {tree : FileTree} {path : Text} {b : Bytes} (input : Bytes)
    (hread : tree.read (Path.tidy path) = .ok b) (hpath : path ≠ dash) (withBanner : Bool) :
    (run config input tree withBanner [path]).exitCode = .ofFile config b := by
  have hfiles : dash ∉ [path] := fun h => hpath (List.mem_singleton.1 h).symm
  have htext : tree.readText (Path.tidy path) = .ok ((Utf8.decode b).map Text.universalNewlines) := by
    rw [FileTree.readText, hread]
    rfl
  rw [(run_files config input withBanner tree hfiles).2, Batch.run_singleton, Batch.file, htext, ExitCode.ofFile]
  cases Utf8.decode b with
  | error fault => rfl
  | ok text =>
    simp only [Except.map, Batch.ofText]
    cases hfault : (Conversion.ofText config text.universalNewlines).fault <;> rfl

/-- the two codes agree unless a statement fails on one of the ways -/
theorem ExitCode.ofInput_eq_ofFile_iff {b : Bytes} :
    ofInput config b = ofFile config b ↔ ofInput config b ≠ .failure ∧ ofFile config b ≠ .pipelineError := by
  rw [ofInput, ofFile]
  cases Utf8.decode b with
  | error fault =>
    by_cases hfault :
      (Conversion.ofLines config (Text.wholeLines (Utf8.readBefore b fault).1)).fault.isSome = true <;> simp [hfault]
  | ok text =>
    by_cases hfault : (Conversion.ofText config text).fault.isSome = true <;>
      by_cases hfault' : (Conversion.ofText config text.universalNewlines).fault.isSome = true <;>
        simp [hfault, hfault']

theorem ExitCode.of_compile (hwords : config.tables.Compile) (b : Bytes) :
    let code := if (Utf8.decode b).isOk then success else encodingError
    ofInput config b = code ∧ ofFile config b = code := by
  have hlines (lines : List Text) : (Conversion.ofLines config lines).fault = none :=
    Assembler.ofLines_fault_eq_none_iff.2 (.inl hwords)
  rw [ofInput, ofFile]
  cases Utf8.decode b with
  | error fault => simp [hlines, Except.isOk, Except.toBool]
  | ok text => simp [hlines, Conversion.ofText, Except.isOk, Except.toBool]

end

/-- **The standard input and a file fail alike as long as no statement fails.** The command that converts the standard
input and the one that converts a file with the same bytes, under the same settings: bytes that are no text have the same
code on both ways, but a statement that fails has a code of its own in a file only. If all reserved words can stand
between word boundaries none fails, and the codes agree for all bytes. -/
theorem input_and_file_codes {w w' : World} {inputArguments fileArguments : List Text} {path : Text}
    {o o' : SettingsOptions} {config : Config}
    (hinput : w.Accepts inputArguments (.convert [dash] none o)) (hsettings : w.settings o = .ok config)
    (hfile : w'.Accepts fileArguments (.convert [path] none o')) (hsettings' : w'.settings o' = .ok config)
    (hpath : path ≠ dash) (hread : w'.tree.read (Path.tidy path) = .ok w.input) :
    let inputCode := (w.run inputArguments).ending.code
    let fileCode := (w'.run fileArguments).ending.code
    inputCode = .ofInput config w.input ∧ fileCode = .ofFile config w.input ∧
      (inputCode = fileCode ↔ inputCode ≠ .failure ∧ fileCode ≠ .pipelineError) ∧
      ((∀ k ∈ config.tables.reservedWords.keys, (Pattern.read (wrappedKey k)).isOk = true) →
        inputCode = fileCode ∧ fileCode = if (Utf8.decode w.input).isOk then .success else .encodingError) := by
  intro inputCode fileCode
  have honce : [path].count dash ≤ 1 := List.count_le_length
  have hinputCode : inputCode = .ofInput config w.input :=
    (hinput.shows once_dash hsettings rfl).2.trans (Conversions.exitCode_input ..)
  have hfileCode : fileCode = .ofFile config w.input :=
    (hfile.shows honce hsettings' rfl).2.trans (Conversions.exitCode_file _ hread hpath _)
  refine ⟨hinputCode, hfileCode, ?_, fun hwords => ?_⟩
  · rw [hinputCode, hfileCode]
    exact ExitCode.ofInput_eq_ofFile_iff
  · obtain ⟨hofInput, hofFile⟩ := ExitCode.of_compile (Tables.compile_iff.2 hwords) w.input
    rw [hinputCode, hfileCode, hofInput, hofFile]
    exact ⟨rfl, rfl⟩

/-- a statement, and a byte that is no text after it -/
theorem input_and_file_codes_of_stray_byte :
    let w : World := { input := [0x61, 0x0a, 0xff], tree := .ofList [("in/a.py", .file [0x61, 0x0a, 0xff])] }
    (w.run ["convert"]).ending.code = .encodingError ∧ (w.run ["convert", "./in/a.py"]).ending.code = .encodingError := by
  intro w
  let config := Draft.standard.sanitize.complete
  have hsettings : w.settings {} = .ok config := by decide +kernel
  have hinput : w.Accepts ["convert"] (.convert [dash] none {}) :=
    ⟨by decide +kernel, by decide +kernel, by decide +kernel⟩
  have hfile : w.Accepts ["convert", "./in/a.py"] (.convert ["./in/a.py"] none {}) :=
    ⟨by decide +kernel, by decide +kernel, by decide +kernel⟩
  have hwords : ∀ k ∈ config.tables.reservedWords.keys, (Pattern.read (wrappedKey k)).isOk = true := by decide +kernel
  obtain ⟨-, -, -, hagree⟩ :=
    input_and_file_codes hinput hsettings hfile hsettings (by decide) (by decide +kernel)
  obtain ⟨hsame, hcode⟩ := hagree hwords
  exact ⟨hsame.trans hcode, hcode⟩

/-- a reserved word that cannot stand between word boundaries: the same statement, and two codes -/
theorem failing_statement_has_two_codes :
    let w : World :=
      { input := Utf8.encode "x = 1\n"
        tree := .ofList [("a.py", .file (Utf8.encode "x = 1\n")),
          ("py2rb.toml", .file (Utf8.encode "[reserved_words]\n\"(?i)nil\" = \"null\"\n"))] }
    (w.run ["convert"]).ending.code = .failure ∧ (w.run ["convert", "a.py"]).ending.code = .pipelineError := by
  decide +kernel

end Linewise
