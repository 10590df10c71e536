/-
Settings written out and loaded again.

A file with the document of settings in force gives the same settings back when it is put over the standard ones, whatever
characters their texts have, and so does a file with all that `dump-config` prints: what stands around the document are
comments, as long as no control character stands in the name of a source (`settings_reload`).
-/
import Linewise.Proofs.Accepted
import Linewise.Proofs.Lines
import Linewise.Proofs.Refreezing
import Linewise.Proofs.Separated
import Linewise.Proofs.Toml.Documents

namespace Linewise

/-! ## Settings as a written document -/

namespace Config

/-- the sections of the document of settings -/
def toSections (c : Config) : List (Text × Entries) :=
  (layoutSection, c.layout.toEntries) :: TableKind.all.map fun kind => (kind.name, (c.tables.table kind).toEntries)

theorem ofSections_toSections (c : Config) : Toml.ofSections c.toSections = c.toEntries := rfl

/-- settings are sections of settings, if the unit is short enough to be read -/
theorem isFlat_toSections {c : Config} (h : (Text.ofNat c.layout.indentWidth).length ≤ maxDigits) :
    Toml.IsFlat c.toSections where
  sections := by
    show (layoutSection :: TableKind.all.map TableKind.name).Nodup
    decide
  keys := by
    refine List.forall_mem_cons.2 ⟨?_, fun s hs => ?_⟩
    · show (LayoutKey.all.map LayoutKey.name).Nodup
      decide
    · obtain ⟨kind, -, rfl⟩ := List.mem_map.1 hs
      show ((c.tables.table kind).toEntries.map Prod.fst).Nodup
      rw [Table.toEntries, List.map_map]
      exact (c.tables.table kind).nodup
  settings := by
    refine List.forall_mem_cons.2 ⟨?_, fun s hs => ?_⟩
    · simp only [Layout.toEntries, List.forall_mem_cons]
      exact ⟨.number h, .text _, .text _, .text _, .text _, .texts _, .texts _, by simp⟩
    · obtain ⟨kind, -, rfl⟩ := List.mem_map.1 hs
      intro e he
      obtain ⟨entry, -, rfl⟩ := List.mem_map.1 he
      exact .text _

section

variable {c : Config} (h : (Text.ofNat c.layout.indentWidth).length ≤ maxDigits)
include h

theorem render_eq_sections : c.render = Toml.sections [] false true (Toml.ofSections c.toSections) := by
  rw [render, ← ofSections_toSections, Toml.write_ofSections (isFlat_toSections h).settings]

theorem read_render : Toml.read c.render = .ok c.toEntries := by
  rw [render, ← ofSections_toSections, Toml.read_write (isFlat_toSections h)]

theorem hasPlainLines_render : Toml.HasPlainLines c.render := by
  rw [render_eq_sections h]
  exact Toml.hasPlainLines_sections (isFlat_toSections h).settings true

theorem endsLine_render : Toml.EndsLine c.render := by
  rw [render_eq_sections h]
  exact Toml.endsLine_sections (isFlat_toSections h).settings (List.cons_ne_nil _ _) true

end

end Config

/-! ## Loading -/

/-- a file from which settings come back: it holds their document, whose layer has no warnings and gives the same layout
and the same tables over the standard settings; any file but a project file is loaded as that layer -/
structure Config.ReloadsFrom (c : Config) (tree : FileTree) (source : Source) : Prop where
  entries : tree.readEntries source = .ok c.toEntries
  layer : ∃ layer again, Draft.ofEntries c.toEntries (some source.shown) = .ok layer ∧ layer.warnings = [] ∧
    (Path.fileName source.path ≠ projectFile → tree.readDraft source = .ok (some layer)) ∧
    (Draft.standard.merge layer).freeze = .ok again ∧ again.layout = c.layout ∧ again.tables = c.tables

theorem FileTree.readDraft_eq {tree : FileTree} {source : Source} {es : Entries} {layer : Draft}
    (hentries : tree.readEntries source = .ok es) (hname : Path.fileName source.path ≠ projectFile)
    (hlayer : Draft.ofEntries es (some source.shown) = .ok layer) : tree.readDraft source = .ok (some layer) := by
  have hother : decide (Path.fileName source.path = projectFile) = false := decide_eq_false hname
  rw [readDraft, hentries, ok_bind]
  simp only [hother, Bool.false_and, Bool.false_eq_true, if_false, hlayer]
  rfl

theorem Config.reloadsFrom_of_read {d : Draft} {c : Config} (h : d.freeze = .ok c) (hd : d.tables.ExtendStandard)
    {tree : FileTree} {source : Source} {text : Text} (hfile : tree.read source.path = .ok (Utf8.encode text))
    (hreturn : '\r' ∉ text) (hread : Toml.read text = .ok c.toEntries) : c.ReloadsFrom tree source := by
  have hentries : tree.readEntries source = .ok c.toEntries := by
    have htext : tree.readText source.path = .ok (.ok text) := by
      rw [FileTree.readText_of_read hfile, Text.universalNewlines_eq_self hreturn]
    rw [FileTree.readEntries, htext]
    simp only [hread]
  have hlayer := Draft.ofEntries_toEntries c (some source.shown)
  refine ⟨hentries, c.asLayer (some source.shown), _, hlayer, rfl, fun hname => ?_,
    Draft.freeze_merge_asLayer h (some source.shown) hd, rfl, rfl⟩
  exact FileTree.readDraft_eq hentries hname hlayer

/-! ## Settings over the standard ones -/

/-- whatever is merged, the standard keys stay in front -/
theorem Loading.extendStandard_load {tree : FileTree} {draft : Draft} (h : draft.tables.ExtendStandard)
    (sources : List Source) : (Loading.load tree draft sources).draft.tables.ExtendStandard := by
  induction sources generalizing draft with
  | nil => exact h
  | cons s rest ih =>
    rw [Loading.load]
    split
    · exact h
    · exact ih h
    · exact ih (h.merge _)

theorem World.exists_draft_of_settings {w : World} {o : SettingsOptions} {c : Config} (h : w.settings o = .ok c) :
    ∃ d : Draft, d.freeze = .ok c ∧ d.tables.ExtendStandard := by
  have hload : (w.load o).draft.tables.ExtendStandard := by
    have hstandard : Draft.standard.tables.ExtendStandard := Tables.extendStandard_standard
    rw [World.load]
    split
    · exact hstandard
    · exact Loading.extendStandard_load hstandard _
  simp only [World.settings] at h
  split at h
  · cases h
  · exact ⟨o.override (w.load o).draft, mapError_eq_ok_iff.1 h, hload⟩

/-! ## The dump -/

namespace Config

/-- how the sources are named in the dump -/
def shownSources (c : Config) : Text := if c.sources.isEmpty then "defaults only" else Text.join ", " c.sources

/-- the comment lines of the dump, without their number signs -/
def dumpHeading (c : Config) : Text := " Effective Py2Rb config (" ++ c.shownSources ++ ")"

def dumpBegin : Text := " === BEGIN ==="

def dumpEnd : Text := " === END ==="

/-- what follows the document in the dump -/
def dumpTail : Text := '#' :: dumpEnd ++ '\n' :: []

/-- the document between comments -/
def dump (c : Config) : Text :=
  '#' :: c.dumpHeading ++ '\n' :: ('#' :: dumpBegin ++ '\n' :: (c.render ++ dumpTail))

end Config

/-- a line without style and without escape sequences is written as it is -/
theorem Event.echo_of_notMem {color : Bool} {line : Text} (h : escape ∉ line) :
    Event.echo color none line = line ++ ['\n'] := by
  cases color with
  | true => rfl
  | false =>
    show Style.strip line ++ ['\n'] = _
    rw [Style.strip_eq_self h]

section

variable {c : Config} (hwidth : (Text.ofNat c.layout.indentWidth).length ≤ maxDigits)
  (hsources : ∀ path ∈ c.sources, Toml.IsPlain path)

section

include hsources

theorem isPlain_dumpHeading : Toml.IsPlain c.dumpHeading := by
  have hshown : Toml.IsPlain c.shownSources := by
    unfold Config.shownSources
    split
    · decide
    · intro x hx
      have hcomma : Toml.IsPlain ", " := by decide
      rcases Text.mem_join hx with hsep | ⟨path, hpath, hx⟩
      · exact hcomma x hsep
      · exact hsources path hpath x hx
  unfold Config.dumpHeading
  exact Toml.isPlain_append.2 ⟨Toml.isPlain_append.2 ⟨by decide, hshown⟩, by decide⟩

end

include hwidth hsources

/-- the comments of the dump are left out when it is read -/
theorem read_dump : Toml.read c.dump = .ok c.toEntries := by
  have hflat := Config.isFlat_toSections hwidth
  have htail : Toml.Reads Config.dumpTail {} := Toml.Reads.nil.comment (by decide)
  obtain ⟨read, hreads, hread⟩ := Toml.reads_sections hflat.settings htail true
  rw [← Config.render_eq_sections hwidth] at hreads
  have hbegin : Toml.Reads ('#' :: Config.dumpBegin ++ '\n' :: (c.render ++ Config.dumpTail)) { sections := read } :=
    hreads.comment (by decide)
  have hdump : Toml.Reads c.dump { sections := read } := hbegin.comment (isPlain_dumpHeading hsources)
  rw [Toml.read_of_reads hdump hread hflat, Config.ofSections_toSections]

theorem hasPlainLines_dump : Toml.HasPlainLines c.dump := by
  have hheading : Toml.IsPlain ('#' :: c.dumpHeading) :=
    Toml.isPlain_cons.2 ⟨by decide, isPlain_dumpHeading hsources⟩
  have hbegin : Toml.IsPlain ('#' :: Config.dumpBegin) := by decide
  have hend : Toml.IsPlain ('#' :: Config.dumpEnd) := by decide
  have htail : Toml.HasPlainLines Config.dumpTail := hend.line fun _ h => by cases h
  exact hheading.line (hbegin.line (Toml.hasPlainLines_append.2 ⟨Config.hasPlainLines_render hwidth, htail⟩))

/-- `dump-config` prints the dump, in colour or not -/
theorem output_dumpConfig {w : World} {o : SettingsOptions} (h : w.settings o = .ok c) (color : Bool) :
    (w.dumpConfig o).events.flatMap (Event.output color) = c.dump := by
  have hwarnings : c.events.flatMap (Event.output color) = [] :=
    List.flatMap_eq_nil_iff.2 fun e he => by
      obtain ⟨warning, -, rfl⟩ := List.mem_map.1 he
      rfl
  have hheading : Event.echo color none ('#' :: c.dumpHeading) = '#' :: c.dumpHeading ++ ['\n'] := by
    have hplain : Toml.IsPlain ('#' :: c.dumpHeading) :=
      Toml.isPlain_cons.2 ⟨by decide, isPlain_dumpHeading hsources⟩
    exact Event.echo_of_notMem (hplain.hasPlainLines.notMem (by decide) (by decide))
  have hdocument : Event.echo color none (Text.dropEndWhile (· == '\n') c.render) = c.render := by
    have hlines := (Config.endsLine_render hwidth).dropEndWhile
    rw [Event.echo_of_notMem, hlines]
    intro hmem
    have hrender : escape ∈ c.render := hlines ▸ List.mem_append_left _ hmem
    exact (Config.hasPlainLines_render hwidth).notMem (by decide) (by decide) hrender
  have hbegin : Event.echo color none ('#' :: Config.dumpBegin) = '#' :: Config.dumpBegin ++ ['\n'] :=
    Event.echo_of_notMem (by decide)
  have hend : Event.echo color none ('#' :: Config.dumpEnd) = Config.dumpTail := Event.echo_of_notMem (by decide)
  have hevents : (w.dumpConfig o).events = c.events ++
      [.printed none ('#' :: c.dumpHeading), .printed none ('#' :: Config.dumpBegin),
        .printed none (Text.dropEndWhile (· == '\n') c.render), .printed none ('#' :: Config.dumpEnd)] := by
    rw [World.dumpConfig, h]
    rfl
  rw [hevents, List.flatMap_append, hwarnings]
  show Event.echo color none ('#' :: c.dumpHeading) ++ (Event.echo color none ('#' :: Config.dumpBegin) ++
    (Event.echo color none (Text.dropEndWhile (· == '\n') c.render) ++
      (Event.echo color none ('#' :: Config.dumpEnd) ++ []))) = c.dump
  rw [hheading, hbegin, hdocument, hend]
  simp [Config.dump]

end

/-! ## The whole program -/

/-- a command that gives up before it runs does not succeed -/
theorem checkSettingsFile_code {tree : FileTree} {path : Text} {halt : Halt}
    (h : checkSettingsFile tree path = .error halt) : halt.code ≠ .success := by
  have hmisuse (fault : Text) : (pathMisuse "--config" path fault).code ≠ .success := by rintro ⟨⟩
  unfold checkSettingsFile at h
  split at h
  · exact Except.error.inj h ▸ hmisuse _
  · split at h
    · cases h
    · exact Except.error.inj h ▸ hmisuse _
  · cases h
    rintro ⟨⟩
  · exact Except.error.inj h ▸ hmisuse _

theorem Command.check_dumpConfig_code {tree : FileTree} {o : SettingsOptions} {halt : Halt}
    (h : (Command.dumpConfig o).check tree = .error halt) : halt.code ≠ .success := by
  obtain ⟨path, -, hfile⟩ := exists_error_of_forM (show o.files.forM (checkSettingsFile tree) = .error halt from h)
  exact checkSettingsFile_code hfile

theorem World.setUp_code {w : World} {g : GroupRequest} {halt : Halt} (h : w.setUp g = .error halt) :
    halt.code ≠ .success := by
  unfold setUp at h
  split at h
  · cases h
    decide
  · split at h <;> cases h
    simp [Halt.code]

/-- a dump that succeeds is what the command printed -/
theorem World.run_dumpConfig {w : World} {arguments : List Text} {o : SettingsOptions}
    (h : Command.ofArguments? arguments = some (.dumpConfig o)) (hcode : (w.run arguments).ending.code = .success) :
    ∃ setup, w.run arguments = { setup := some setup, ending := w.dumpConfig o } := by
  obtain ⟨g, hrun⟩ := w.exists_request h
  rw [hrun, runRequest] at hcode ⊢
  cases hsetup : w.setUp g with
  | error halt =>
    rw [hsetup] at hcode
    exact absurd hcode (setUp_code hsetup)
  | ok setup =>
    rw [hsetup] at hcode
    refine ⟨setup, ?_⟩
    cases hcheck : (Command.dumpConfig o).check w.tree with
    | error halt =>
      simp only [hcheck] at hcode
      exact absurd hcode (Command.check_dumpConfig_code hcheck)
    | ok _ => simp only [runCommand]

theorem LoadFault.halt_code (f : LoadFault) : f.halt.code ≠ .success := by
  obtain ⟨shown, cause⟩ := f
  cases cause with
  | unreadable fault =>
    simp only [halt]
    split <;> simp [Halt.code]
  | _ => simp [halt, Halt.code]

theorem World.exists_settings_of_success {w : World} {o : SettingsOptions}
    (h : (w.dumpConfig o).code = .success) : ∃ c, w.settings o = .ok c := by
  cases hsettings : w.settings o with
  | ok c => exact ⟨c, rfl⟩
  | error ending =>
    rw [dumpConfig, hsettings] at h
    simp only [settings] at hsettings
    split at hsettings
    · cases hsettings
      exact absurd h (LoadFault.halt_code _)
    · cases hfreeze : (o.override (w.load o).draft).freeze with
      | ok c =>
        rw [hfreeze] at hsettings
        cases hsettings
      | error fault =>
        rw [hfreeze] at hsettings
        cases hsettings
        cases h

/-- **Settings that are written out come back**, from a file with their document and from a file with all that
`dump-config` prints. -/
theorem settings_reload :
    (∀ {d : Draft} {c : Config}, (Draft.standard.merge d).freeze = .ok c →
      (Text.ofNat c.layout.indentWidth).length ≤ maxDigits →
      ∀ {tree : FileTree} {source : Source}, tree.read source.path = .ok (Utf8.encode c.render) →
        c.ReloadsFrom tree source) ∧
    ∀ {w : World} {arguments : List Text} {o : SettingsOptions},
      Command.ofArguments? arguments = some (.dumpConfig o) → (w.run arguments).ending.code = .success →
      ∃ c, w.settings o = .ok c ∧
        ((Text.ofNat c.layout.indentWidth).length ≤ maxDigits → (∀ path ∈ c.sources, Toml.IsPlain path) →
          ∀ {tree : FileTree} {source : Source},
            tree.read source.path = .ok (Utf8.encode (w.run arguments).output) → c.ReloadsFrom tree source) := by
  constructor
  · intro d c hfreeze hwidth tree source hfile
    have hreturn : '\r' ∉ c.render := (Config.hasPlainLines_render hwidth).notMem (by decide) (by decide)
    exact Config.reloadsFrom_of_read hfreeze (Tables.extendStandard_standard.merge d.tables) hfile hreturn
      (Config.read_render hwidth)
  · intro w arguments o harguments hcode
    obtain ⟨setup, hrun⟩ := World.run_dumpConfig harguments hcode
    rw [hrun] at hcode ⊢
    obtain ⟨c, hsettings⟩ := World.exists_settings_of_success hcode
    obtain ⟨d, hfreeze, hstandard⟩ := World.exists_draft_of_settings hsettings
    refine ⟨c, hsettings, fun hwidth hsources tree source hfile => ?_⟩
    have hreturn : '\r' ∉ c.dump := (hasPlainLines_dump hwidth hsources).notMem (by decide) (by decide)
    have houtput : Session.output { setup := some setup, ending := w.dumpConfig o } = c.dump :=
      output_dumpConfig hwidth hsources hsettings _
    rw [houtput] at hfile
    exact Config.reloadsFrom_of_read hfreeze hstandard hfile hreturn (read_dump hwidth hsources)

/-- a layer with quotes, backslashes, control characters, dots and empty texts, and the dump of a settings file -/
theorem awkward_settings_reload :
    let draft : Draft :=
      { layout :=
          { indentWidth := some 2, terminator := some "\"end\"\\", commentPrefix := some [],
            blockStringDelimiters := some [], continuationKeywords := some ["é\x1b", ""] }
        tables :=
          { reservedWords := .ofList [("a.b", "\x00\t\x7f")]
            functionsToMethods := .ofList [("", "\r\n")]
            specialMethods := .ofList [("'\"", "\\u0041")] } }
    let world : World := { tree := .ofList [("py2rb.toml", .file (Utf8.encode "[layout]\nindent_width = 2\n"))] }
    let arguments : List Text := ["dump-config"]
    let holding (text : Text) : FileTree := .ofList [("saved.toml", .file (Utf8.encode text))]
    (∃ c, (Draft.standard.merge draft).freeze = .ok c ∧ (Text.ofNat c.layout.indentWidth).length ≤ maxDigits ∧
      c.ReloadsFrom (holding c.render) (Source.ofPath "saved.toml")) ∧
    Command.ofArguments? arguments = some (.dumpConfig {}) ∧ (world.run arguments).ending.code = .success ∧
    ∃ c, world.settings {} = .ok c ∧ (Text.ofNat c.layout.indentWidth).length ≤ maxDigits ∧
      c.sources = ["py2rb.toml".toList] ∧
      c.ReloadsFrom (holding (world.run arguments).output) (Source.ofPath "saved.toml") := by
  intro draft world arguments holding
  have hlimit : (Text.ofNat 2).length ≤ maxDigits := by decide
  obtain ⟨hrendered, hdumped⟩ := settings_reload
  have harguments : Command.ofArguments? arguments = some (.dumpConfig {}) := by decide +kernel
  have hcode : (world.run arguments).ending.code = .success := by decide +kernel
  have hfreeze : (Draft.standard.merge draft).freeze = .ok (Draft.standard.merge draft).sanitize.complete :=
    Draft.freeze_eq (by decide +kernel)
  refine ⟨⟨_, hfreeze, hlimit, hrendered hfreeze hlimit rfl⟩, harguments, hcode, ?_⟩
  obtain ⟨c, hsettings, hreload⟩ := hdumped harguments hcode
  have hunit : (world.settings {}).map (fun c => (c.layout.indentWidth, c.sources)) = .ok (2, ["py2rb.toml".toList]) := by
    decide +kernel
  rw [hsettings] at hunit
  obtain ⟨hwidth, hsources⟩ := Prod.mk.inj (Except.ok.inj hunit)
  refine ⟨c, hsettings, hwidth ▸ hlimit, hsources, hreload (hwidth ▸ hlimit) ?_ rfl⟩
  rw [hsources]
  decide

end Linewise
