/-
Settings that cannot be loaded.

A command loads its settings before it does anything else, and loading stops at the first document that cannot be loaded
(`Loading.fault_load`). Then the command shows nothing and writes nothing, and its code is that of the fault. An accepted
command can read the documents that its options name (`World.Accepts.exists_read`); that leaves documents of the working
directory that are out of reach, bytes that are no text, a text that is no document, and a warning that cannot be made.
`settings_faults` says which of them have the code of settings that make no sense and which are not foreseen,
`stray_byte_is_not_foreseen` is one of the latter.
-/
import Linewise.Proofs.Endings
import Linewise.Proofs.Reload
import Linewise.Proofs.Remarks
import Linewise.Proofs.TidyPaths

namespace Linewise

/-! ## Documents -/

namespace FileTree

/-- why a document cannot be loaded, if it cannot -/
def loadFault? (t : FileTree) (s : Source) : Option LoadFault :=
  match t.readDraft s with
  | .error fault => some fault
  | .ok _ => none

section

variable {t : FileTree} {s : Source} {text : Text} {es : Entries}

theorem loadFault?_of_readEntries {fault : LoadFault} (h : t.readEntries s = .error fault) :
    t.loadFault? s = some fault := by
  rw [loadFault?, readDraft, h]
  rfl

theorem loadFault?_of_unreadable {fault : FileFault} (h : t.readText s.path = .error fault) :
    t.loadFault? s = some ⟨s.shown, .unreadable ⟨fault.cause, s.shown⟩⟩ :=
  loadFault?_of_readEntries (by simp only [readEntries, h])

theorem loadFault?_of_undecodable {fault : Utf8.Fault} (h : t.readText s.path = .ok (.error fault)) :
    t.loadFault? s = some ⟨s.shown, .undecodable fault⟩ :=
  loadFault?_of_readEntries (by simp only [readEntries, h])

theorem loadFault?_of_readFault {fault : Toml.ReadFault} (htext : t.HoldsText s.path text)
    (hread : Toml.read text = .error fault) : t.loadFault? s = some ⟨s.shown, .ofReadFault fault⟩ :=
  loadFault?_of_readEntries (by simp only [readEntries, readText_eq_ok_iff.2 htext, hread])

theorem entriesShowable_sectionAt (h : Value.entriesShowable es = true) (path : List Text) :
    Value.entriesShowable (sectionAt es path) = true := by
  induction path generalizing es with
  | nil => exact h
  | cons key rest ih => exact ih (Checked.entriesShowable_table h key)

/-- a document loads whatever the shape of what it says, if that can be quoted -/
theorem loadFault?_eq_none (htext : t.HoldsText s.path text) (hread : Toml.read text = .ok es)
    (hshow : Value.entriesShowable es = true) : t.loadFault? s = none := by
  have hentries : t.readEntries s = .ok es := by simp only [readEntries, readText_eq_ok_iff.2 htext, hread]
  have hsettings (path : List Text) : ∃ layer, Draft.ofEntries (sectionAt es path) (some s.shown) = .ok layer :=
    Draft.exists_ofEntries (entriesShowable_sectionAt hshow path) (some s.shown)
  by_cases hproject : Path.fileName s.path = projectFile
  · obtain ⟨layer, hlayer⟩ := hsettings projectSection
    simp only [loadFault?, readDraft, hentries, hproject, hlayer, bind, Except.bind, decide_true, if_true, Bool.true_and]
    by_cases hnone : (sectionAt es projectSection).isEmpty = true
    · rw [if_pos hnone]
      rfl
    · rw [if_neg hnone]
      rfl
  · obtain ⟨layer, hlayer⟩ := hsettings []
    have hlayer : Draft.ofEntries es (some s.shown) = .ok layer := hlayer
    simp only [loadFault?, readDraft, hentries, hproject, hlayer, bind, Except.bind, decide_false, if_false,
      Bool.false_and, Bool.false_eq_true]
    rfl

end

end FileTree

/-- loading stops at the first document that cannot be loaded, and only there -/
theorem Loading.fault_load (t : FileTree) (draft : Draft) (sources : List Source) :
    (load t draft sources).fault = sources.findSome? t.loadFault? := by
  induction sources generalizing draft with
  | nil => rfl
  | cons s rest ih =>
    rw [load, List.findSome?_cons, FileTree.loadFault?]
    cases hread : t.readDraft s with
    | error fault => rfl
    | ok layer =>
      cases layer with
      | none => exact ih draft
      | some layer => exact ih (draft.merge layer)

namespace FileTree

section

variable {t : FileTree} {s : Source} {sources found : List Source} {fault : LoadFault}

theorem hasFile_eq_ok_true (h : t.hasFile s = .ok true) : ∃ q content, t.find s.path = .ok (q, .file content) := by
  rw [hasFile] at h
  split at h
  · rename_i q content hfind
    exact ⟨q, content, hfind⟩
  · cases h
  · split at h <;> cases h

theorem halt_of_hasFile (h : t.hasFile s = .error fault) : fault.halt.code = .configError := by
  rw [hasFile] at h
  split at h
  · cases h
  · cases h
  · split at h
    · cases h
    · cases h
      rfl

/-- the documents that are kept are files -/
theorem exists_find_of_filesAmong (h : t.filesAmong sources = .ok found) :
    ∀ s ∈ found, ∃ q content, t.find s.path = .ok (q, .file content) := by
  induction sources generalizing found with
  | nil =>
    cases h
    rintro s ⟨⟩
  | cons s rest ih =>
    rw [filesAmong] at h
    obtain ⟨isThere, hthere, h⟩ := bind_eq_ok_iff.1 h
    obtain ⟨others, hothers, h⟩ := bind_eq_ok_iff.1 h
    cases isThere with
    | false =>
      cases h
      exact ih hothers
    | true =>
      cases h
      exact List.forall_mem_cons.2 ⟨hasFile_eq_ok_true hthere, ih hothers⟩

/-- if it cannot be found out which of them are there, the settings make no sense -/
theorem halt_of_filesAmong (h : t.filesAmong sources = .error fault) : fault.halt.code = .configError := by
  induction sources with
  | nil => cases h
  | cons s rest ih =>
    rw [filesAmong] at h
    rcases bind_eq_error_iff.1 h with hthere | ⟨isThere, -, h⟩
    · exact halt_of_hasFile hthere
    · rcases bind_eq_error_iff.1 h with hothers | ⟨others, -, h⟩
      · exact ih hothers
      · cases h

end

end FileTree

/-- the documents that are found, and those that the options name -/
theorem World.exists_discover {w : World} {o : SettingsOptions} {documents : List Source}
    (h : w.documents o = .ok documents) :
    ∃ found, documents = found ++ o.files.map Source.ofPath ∧
      ∀ s ∈ found, ∃ q content, w.tree.find s.path = .ok (q, .file content) := by
  rw [World.documents] at h
  split at h
  · cases h
    exact ⟨[], rfl, by rintro s ⟨⟩⟩
  · obtain ⟨found, hfound, rfl⟩ := map_eq_ok_iff.1 h
    exact ⟨found, rfl, FileTree.exists_find_of_filesAmong hfound⟩

theorem World.halt_of_documents {w : World} {o : SettingsOptions} {fault : LoadFault}
    (h : w.documents o = .error fault) : fault.halt.code = .configError := by
  rw [World.documents] at h
  split at h
  · cases h
  · exact FileTree.halt_of_filesAmong (map_eq_error_iff.1 h)

theorem World.fault_load {w : World} {o : SettingsOptions} {documents : List Source}
    (h : w.documents o = .ok documents) : (w.load o).fault = documents.findSome? w.tree.loadFault? := by
  rw [World.load, h, Loading.fault_load]

/-! ## Commands -/

/-- the settings that a command loads, if it gets that far -/
def Command.settings? : Command → Option SettingsOptions
  | .convert inputs _ o => if inputs.count dash ≤ 1 then some o else none
  | .dumpConfig o => some o
  | .version _ => none

section

variable {w : World} {c : Command} {o : SettingsOptions}

/-- a command whose settings cannot be loaded does nothing else -/
theorem World.runCommand_of_load {fault : LoadFault} (hloads : c.settings? = some o) (h : (w.load o).fault = some fault)
    (verbosity : Level) :
    w.runCommand verbosity c = fault.halt.ending ((w.load o).records.map .logged) := by
  have hsettings : w.settings o = .error (fault.halt.ending ((w.load o).records.map .logged)) := by
    rw [settings, h]
  cases c with
  | convert inputs output options =>
    rw [Command.settings?] at hloads
    split at hloads
    · rename_i honce
      cases hloads
      rw [runCommand, convert, if_neg (Nat.not_lt.2 honce), hsettings]
    · cases hloads
  | dumpConfig options =>
    cases hloads
    rw [runCommand, dumpConfig, hsettings]
  | version asJson => cases hloads

theorem exists_find_of_checkSettingsFile {t : FileTree} {path : Text} (h : checkSettingsFile t path = .ok ()) :
    ∃ q content, t.find path = .ok (q, .file content) ∧ t.allows q .read = true := by
  unfold checkSettingsFile at h
  split at h
  · cases h
  · rename_i q content hfind
    split at h
    · rename_i hread
      exact ⟨q, content, hfind, hread⟩
    · cases h
  · cases h
  · cases h

/-- the paths that an accepted command names lead to files that may be read -/
theorem Command.checkSettingsFile_of_check {t : FileTree} (hloads : c.settings? = some o) (hcheck : c.check t = .ok ()) :
    ∀ path ∈ o.files, checkSettingsFile t path = .ok () := by
  cases c with
  | convert inputs output options =>
    rw [settings?] at hloads
    split at hloads
    · cases hloads
      obtain ⟨_, hfiles, -⟩ :=
        bind_eq_ok_iff.1 (show (o.files.forM (checkSettingsFile t) >>= fun _ => _) = .ok () from hcheck)
      exact forM_eq_ok_iff.1 hfiles
    · cases hloads
  | dumpConfig options =>
    cases hloads
    exact forM_eq_ok_iff.1 hcheck
  | version asJson => cases hloads

/-- an accepted command can read the documents that its options name -/
theorem World.Accepts.exists_read {arguments : List Text} (h : w.Accepts arguments c) (hloads : c.settings? = some o) :
    ∀ path ∈ o.files, ∃ content, w.tree.read (Path.tidy path) = .ok content := by
  intro path hpath
  obtain ⟨q, content, hfind, hread⟩ :=
    exists_find_of_checkSettingsFile (Command.checkSettingsFile_of_check hloads h.check path hpath)
  exact ⟨content, FileTree.read_eq_ok_iff.2 ⟨q, FileTree.find_tidy hfind, hread⟩⟩

/-- and those that it finds, unless one of them may not be read -/
theorem World.Accepts.read_document {arguments : List Text} (h : w.Accepts arguments c) (hloads : c.settings? = some o)
    {documents : List Source} (hdocuments : w.documents o = .ok documents) :
    ∀ s ∈ documents, (∃ content, w.tree.read s.path = .ok content) ∨ w.tree.read s.path = .error ⟨.denied, s.path⟩ := by
  intro s hs
  obtain ⟨found, rfl, hfound⟩ := World.exists_discover hdocuments
  rcases List.mem_append.1 hs with hs | hs
  · obtain ⟨q, content, hfind⟩ := hfound s hs
    cases hread : w.tree.allows q .read with
    | true => exact .inl ⟨content, FileTree.read_eq_ok_iff.2 ⟨q, hfind, hread⟩⟩
    | false => exact .inr (FileTree.read_of_denied hfind hread)
  · obtain ⟨path, hpath, rfl⟩ := List.mem_map.1 hs
    exact .inl (h.exists_read hloads path hpath)

/-! ## Endings -/

/-- settings that cannot be loaded end the command: nothing is shown and nothing is written -/
theorem World.Runs.of_load {session : Session} {fault : LoadFault} (hruns : w.Runs c session)
    (hloads : c.settings? = some o) (hload : (w.load o).fault = some fault) :
    session.output = [] ∧ session.ending.written = none ∧ session.ending.code = fault.halt.code := by
  obtain ⟨setup, rfl⟩ := hruns
  have hending := World.runCommand_of_load hloads hload setup.verbosity
  refine ⟨?_, congrArg Ending.written hending, congrArg Ending.code hending⟩
  show (w.runCommand setup.verbosity c).events.flatMap (Event.output _) = []
  rw [hending]
  refine Event.output_of_isAside (fun e he => ?_) _
  rcases List.mem_append.1 he with hlogged | hhalt
  · obtain ⟨record, -, rfl⟩ := List.mem_map.1 hlogged
    exact ⟨rfl, fun color => rfl⟩
  · exact Halt.isAside_of_mem_events hhalt

/-- so does the first document that cannot be loaded -/
theorem World.fault_load_of_loadFault {before after : List Source} {d : Source} {fault : LoadFault}
    (hdocuments : w.documents o = .ok (before ++ d :: after)) (hbefore : ∀ s ∈ before, w.tree.loadFault? s = none)
    (hd : w.tree.loadFault? d = some fault) : (w.load o).fault = some fault := by
  rw [World.fault_load hdocuments]
  exact List.findSome?_eq_some_iff.2 ⟨before, d, after, rfl, hd, hbefore⟩

/-- **What becomes of settings that cannot be loaded.** Accepted arguments run their command, and the documents that its
options name can be read; one that is found in the working directory can, unless it may not be. If it cannot be found out
what is there, or at the first document that cannot be loaded, the command ends: nothing is shown, nothing is written, and
the code is not that of success. It is the code of settings that make no sense if the document cannot be read or is
malformed; bytes that are no text and statements that clash are not foreseen. Documents that are documents load, whatever
their shape, as long as what they say can be quoted. -/
theorem settings_faults (hloads : c.settings? = some o) :
    (∀ arguments, w.Accepts arguments c →
      w.Runs c (w.run arguments) ∧ (∀ path ∈ o.files, ∃ content, w.tree.read (Path.tidy path) = .ok content) ∧
      ∀ documents, w.documents o = .ok documents → ∀ s ∈ documents,
        (∃ content, w.tree.read s.path = .ok content) ∨ w.tree.read s.path = .error ⟨.denied, s.path⟩) ∧
    (∀ session fault, w.Runs c session → w.documents o = .error fault →
      session.output = [] ∧ session.ending.written = none ∧ session.ending.code = .configError) ∧
    (∀ session before d after, w.Runs c session → w.documents o = .ok (before ++ d :: after) →
      (∀ s ∈ before, w.tree.loadFault? s = none) →
      let code := session.ending.code
      (∀ fault, w.tree.loadFault? d = some fault →
        session.output = [] ∧ session.ending.written = none ∧ code = fault.halt.code ∧ code ≠ .success) ∧
      (∀ fault, w.tree.readText d.path = .error fault →
        code = if fault.cause = .nullCharacter then .failure else .configError) ∧
      (∀ fault, w.tree.readText d.path = .ok (.error fault) → code = .failure) ∧
      ∀ text, w.tree.HoldsText d.path text →
        (∀ fault, Toml.read text = .error (.malformed fault) → code = .configError) ∧
        (∀ clash, Toml.read text = .error (.clashing clash) → code = .failure)) ∧
    ∀ documents, w.documents o = .ok documents →
      (∀ s ∈ documents, ∃ text es, w.tree.HoldsText s.path text ∧ Toml.read text = .ok es ∧
        Value.entriesShowable es = true) →
      (w.load o).fault = none := by
  refine ⟨fun arguments haccepts => ⟨haccepts.runs, haccepts.exists_read hloads, fun documents hdocuments =>
    haccepts.read_document hloads hdocuments⟩, ?_, ?_, ?_⟩
  · intro session fault hruns hdocuments
    have hload : (w.load o).fault = some fault := by rw [World.load, hdocuments]
    obtain ⟨houtput, hwritten, hcode⟩ := hruns.of_load hloads hload
    exact ⟨houtput, hwritten, hcode.trans (World.halt_of_documents hdocuments)⟩
  · intro session before d after hruns hdocuments hbefore code
    have hends {fault : LoadFault} (hd : w.tree.loadFault? d = some fault) :=
      hruns.of_load hloads (World.fault_load_of_loadFault hdocuments hbefore hd)
    have hcode {fault : LoadFault} (hd : w.tree.loadFault? d = some fault) : code = fault.halt.code := (hends hd).2.2
    refine ⟨fun fault hd => ?_, fun fault hread => ?_, fun fault hread => ?_,
      fun text htext => ⟨fun fault hread => ?_, fun clash hread => ?_⟩⟩
    · obtain ⟨houtput, hwritten, -⟩ := hends hd
      exact ⟨houtput, hwritten, hcode hd, hcode hd ▸ fault.halt_code⟩
    · rw [hcode (FileTree.loadFault?_of_unreadable hread)]
      simp only [LoadFault.halt]
      split <;> rfl
    · exact hcode (FileTree.loadFault?_of_undecodable hread)
    · exact hcode (FileTree.loadFault?_of_readFault htext hread)
    · exact hcode (FileTree.loadFault?_of_readFault htext hread)
  · intro documents hdocuments hall
    rw [World.fault_load hdocuments]
    refine List.findSome?_eq_none_iff.2 fun s hs => ?_
    obtain ⟨text, es, htext, hread, hshow⟩ := hall s hs
    exact FileTree.loadFault?_eq_none htext hread hshow

end

/-- a document that breaks off, after one in which nothing is of the kind that is expected -/
theorem settings_faults_after_odd_shapes :
    let odd : Text := "layout = 1\n[reserved_words]\nnil = [2]\n[no]\n"
    let w : World :=
      { tree := .ofList [("odd.toml", .file (Utf8.encode odd)), ("in/broken.toml", .file (Utf8.encode "[layout"))] }
    let session := w.run ["convert", "--no-config", "--config=odd.toml", "--config", "./in/broken.toml", "-oout.rb", "a.py"]
    session.output = [] ∧ session.ending.written = none ∧ session.ending.code = .configError ∧
      (w.load { noConfig := true, files := ["odd.toml"] }).fault = none := by
  intro odd w session
  let c : Command := .convert ["a.py"] (some "out.rb") { noConfig := true, files := ["odd.toml", "./in/broken.toml"] }
  have haccepts : w.Accepts ["convert", "--no-config", "--config=odd.toml", "--config", "./in/broken.toml", "-oout.rb",
      "a.py"] c := ⟨by decide +kernel, by decide +kernel, by decide +kernel⟩
  obtain ⟨hruns, -, hfails, -⟩ := settings_faults (w := w) (c := c) rfl
  obtain ⟨hrun, -⟩ := hruns _ haccepts
  have hodd : w.tree.HoldsText "odd.toml" odd := FileTree.readText_eq_ok_iff.1 (by decide +kernel)
  have hentries : ∃ es, Toml.read odd = .ok es ∧ Value.entriesShowable es = true := by
    have hshow : (Toml.read odd).toOption.map Value.entriesShowable = some true := by decide +kernel
    cases hread : Toml.read odd with
    | error fault =>
      rw [hread] at hshow
      cases hshow
    | ok es =>
      rw [hread] at hshow
      exact ⟨es, rfl, Option.some.inj hshow⟩
  obtain ⟨es, hentries, hshow⟩ := hentries
  have hbroken : w.tree.HoldsText "in/broken.toml" "[layout" := FileTree.readText_eq_ok_iff.1 (by decide +kernel)
  have hstop : Toml.read "[layout" = .error (.malformed ⟨.unexpectedEnd, 1, 7⟩) := by
    have hfault : (Toml.read "[layout").map (fun _ => ()) = .error (.malformed ⟨.unexpectedEnd, 1, 7⟩) := by
      decide +kernel
    cases hread : Toml.read "[layout" with
    | error fault =>
      rw [hread] at hfault
      exact congrArg Except.error (Except.error.inj hfault)
    | ok es =>
      rw [hread] at hfault
      cases hfault
  have hbefore : ∀ s ∈ [Source.ofPath "odd.toml"], w.tree.loadFault? s = none := by
    intro s hs
    obtain rfl := List.mem_singleton.1 hs
    exact FileTree.loadFault?_eq_none hodd hentries hshow
  obtain ⟨hnothing, -, -, hcode⟩ :=
    hfails session [Source.ofPath "odd.toml"] (Source.ofPath "./in/broken.toml") [] hrun rfl hbefore
  obtain ⟨houtput, hwritten, -⟩ := hnothing _ (FileTree.loadFault?_of_readFault hbroken hstop)
  obtain ⟨-, -, -, hloads⟩ :=
    settings_faults (w := w) (c := .dumpConfig { noConfig := true, files := ["odd.toml"] }) rfl
  refine ⟨houtput, hwritten, (hcode _ hbroken).1 _ hstop, hloads _ rfl fun s hs => ?_⟩
  obtain rfl := List.mem_singleton.1 hs
  exact ⟨odd, es, hodd, hentries, hshow⟩

/-- a byte that is no text is not foreseen, a document that breaks off is -/
theorem stray_byte_is_not_foreseen :
    let w : World :=
      { tree := .ofList [("bad.toml", .file [0xff]), ("broken.toml", .file (Utf8.encode "[layout"))] }
    (w.run ["dump-config", "--no-config", "--config", "bad.toml"]).ending.code = .failure ∧
      (w.run ["dump-config", "--no-config", "--config", "broken.toml"]).ending.code = .configError := by
  decide +kernel

end Linewise
