/-
What `convert` leaves behind: its text and its code.

What a conversion says about itself stands apart from the text that it converts: records and notes go to the error output,
and the sizes are printed only if the text goes to a file. So the text and the code of the command are those of its
conversions, whether the text is shown (`World.Accepts.shows`) or saved (`World.Accepts.saves`).
-/
import Linewise.CommandLine.Conversions
import Linewise.Proofs.Accepted
import Mathlib.Data.List.Basic

namespace Linewise

/-! ## Events -/

/-- the event is no converted text, and nothing of it goes to the standard output -/
def Event.IsAside (e : Event) : Prop := e.isSaid = true ∧ ∀ color, e.output color = []

/-- nothing of what is aside goes to the standard output -/
theorem Event.output_of_isAside {es : List Event} (h : ∀ e ∈ es, e.IsAside) (color : Bool) :
    es.flatMap (Event.output color) = [] :=
  List.flatMap_eq_nil_iff.2 fun e he => (h e he).2 color

/-- what is said when a command gives up is aside -/
theorem Halt.isAside_of_mem_events {halt : Halt} {e : Event} (h : e ∈ halt.events) : e.IsAside := by
  cases halt with
  | misuse m =>
    obtain rfl := List.mem_singleton.1 h
    exact ⟨rfl, fun color => rfl⟩
  | refused code reason =>
    obtain rfl := List.mem_singleton.1 h
    exact ⟨rfl, fun color => rfl⟩
  | crashed crash => cases h

theorem Event.convertedText_of_isSaid {e : Event} (h : e.isSaid = true) : e.convertedText = [] := by
  cases e with
  | converted text => cases h
  | _ => rfl

namespace Conversions

theorem isSaid_of_mem_notes {isElsewhere : Bool} {r : Report} {e : Event} (h : e ∈ notes isElsewhere r) :
    e.isSaid = true := by
  rcases List.mem_append.1 h with hwarned | hsize
  · obtain ⟨warning, -, rfl⟩ := List.mem_map.1 hwarned
    rfl
  · split at hsize
    · obtain rfl := List.mem_singleton.1 hsize
      rfl
    · cases hsize

theorem isAside_of_mem_notes {r : Report} {e : Event} (h : e ∈ notes false r) : e.IsAside := by
  rcases List.mem_append.1 h with hwarned | hsize
  · obtain ⟨warning, -, rfl⟩ := List.mem_map.1 hwarned
    exact ⟨rfl, fun color => rfl⟩
  · cases hsize

/-! ## Text and code -/

/-- the code of the command, if it gets to its inputs -/
def exitCode (c : Conversions) : ExitCode :=
  match c.halt with
  | some halt => halt.code
  | none => c.code.getD .success

/-- of the events of a conversion only converted text goes to the standard output -/
theorem output_of_mem_ofInput {config : Config} {input : Bytes} {withBanner : Bool} {e : Event}
    (h : e ∈ (ofInput config input withBanner).events) (color : Bool) : e.output color = e.convertedText := by
  cases hdecode : Utf8.decode input with
  | error fault =>
    simp only [ofInput, hdecode] at h
    obtain rfl := List.mem_singleton.1 h
    rfl
  | ok text =>
    simp only [ofInput, hdecode] at h
    rcases List.mem_cons.1 h with rfl | hlogged
    · rfl
    · obtain ⟨record, -, rfl⟩ := List.mem_map.1 hlogged
      rfl

theorem output_of_mem_ofFile {config : Config} {tree : FileTree} {withBanner : Bool} {path : Text} {e : Event}
    (h : e ∈ (ofFile config tree withBanner path).events) (color : Bool) : e.output color = e.convertedText := by
  simp only [ofFile] at h
  rcases List.mem_append.1 h with hfile | hfailed
  · rcases List.mem_cons.1 hfile with rfl | hlogged
    · rfl
    · obtain ⟨record, -, rfl⟩ := List.mem_map.1 hlogged
      rfl
  · obtain ⟨code, -, rfl⟩ := Option.map_eq_some_iff.1 (Option.mem_toList.1 hfailed)
    rfl

theorem along_cons (convert : Text → Text → Conversions) (before path : Text) (rest : List Text) :
    along convert before (path :: rest) =
      if (convert before path).halt.isSome then convert before path
      else (convert before path).append (along convert (before ++ (convert before path).text) rest) := rfl

/-- a single input has nothing before it and nothing after it -/
theorem along_singleton (convert : Text → Text → Conversions) (before path : Text) :
    along convert before [path] = convert before path := by
  rw [along_cons]
  by_cases hhalt : (convert before path).halt.isSome = true
  · exact if_pos hhalt
  · have hnone : (convert before path).halt = none := Option.not_isSome_iff_eq_none.1 hhalt
    simp only [if_neg hhalt, along, append, List.append_nil, Option.or_none, ← hnone]

/-- conversions that pay no heed to the text before an input -/
theorem along_const (convert : Text → Conversions) (before : Text) (inputs : List Text) :
    along (fun _ => convert) before inputs = along (fun _ => convert) [] inputs := by
  induction inputs generalizing before with
  | nil => rfl
  | cons path rest ih => rw [along_cons, along_cons, ih, ih ([] ++ _)]

theorem run_cons (config : Config) (input : Bytes) (tree : FileTree) (withBanner : Bool) (path : Text)
    (rest : List Text) :
    run config input tree withBanner (path :: rest) =
      if (one config input tree withBanner path).halt.isSome then one config input tree withBanner path
      else (one config input tree withBanner path).append (run config input tree withBanner rest) := by
  rw [run, along_cons, along_const]

theorem output_of_mem_one {config : Config} {input : Bytes} {tree : FileTree} {withBanner : Bool} {path : Text}
    {e : Event} (h : e ∈ (one config input tree withBanner path).events) (color : Bool) :
    e.output color = e.convertedText := by
  rw [one] at h
  split at h
  · exact output_of_mem_ofInput h color
  · exact output_of_mem_ofFile h color

theorem output_of_mem_run {config : Config} {input : Bytes} {tree : FileTree} {withBanner : Bool} {inputs : List Text}
    {e : Event} (h : e ∈ (run config input tree withBanner inputs).events) (color : Bool) :
    e.output color = e.convertedText := by
  induction inputs with
  | nil => cases h
  | cons path rest ih =>
    rw [run_cons] at h
    split at h
    · exact output_of_mem_one h color
    · rcases List.mem_append.1 h with hfirst | hrest
      · exact output_of_mem_one hfirst color
      · exact ih hrest

section

variable {c : Conversions} {before : List Event} {notes : Report → List Event}

theorem code_ending (before : List Event) (notes : Report → List Event) : (c.ending before notes).code = c.exitCode := by
  rw [ending, exitCode]
  cases c.halt <;> rfl

/-- shown, the converted text is all that stands on the standard output -/
theorem output_ending (hplain : ∀ e ∈ c.events, ∀ color, e.output color = e.convertedText)
    (hbefore : ∀ e ∈ before, e.IsAside) (hnotes : ∀ r, ∀ e ∈ notes r, e.IsAside) (color : Bool) :
    (c.ending before notes).events.flatMap (Event.output color) = c.text := by
  have htext : c.events.flatMap (Event.output color) = c.text := List.flatMap_congr fun e he => hplain e he color
  rw [ending]
  cases c.halt with
  | some halt =>
    have hhalt : halt.events.flatMap (Event.output color) = [] :=
      Event.output_of_isAside (fun e he => Halt.isAside_of_mem_events he) color
    simp [Halt.ending, List.flatMap_append, Event.output_of_isAside hbefore, htext, hhalt]
  | none =>
    have hall : (c.reports.flatMap notes).flatMap (Event.output color) = [] :=
      Event.output_of_isAside (fun e he => by
        obtain ⟨r, -, he⟩ := List.mem_flatMap.1 he
        exact hnotes r e he) color
    simp [List.flatMap_append, Event.output_of_isAside hbefore, htext, hall]

/-- the converted text is all the converted text of the ending -/
theorem convertedText_ending (hbefore : ∀ e ∈ before, e.isSaid = true)
    (hnotes : ∀ r, ∀ e ∈ notes r, e.isSaid = true) :
    (c.ending before notes).events.flatMap Event.convertedText = c.text := by
  have hsaid {es : List Event} (h : ∀ e ∈ es, e.isSaid = true) : es.flatMap Event.convertedText = [] :=
    List.flatMap_eq_nil_iff.2 fun e he => Event.convertedText_of_isSaid (h e he)
  rw [ending]
  cases c.halt with
  | some halt =>
    have hhalt : halt.events.flatMap Event.convertedText = [] := hsaid fun e he => (Halt.isAside_of_mem_events he).1
    simp [Halt.ending, List.flatMap_append, hsaid hbefore, hhalt, text]
  | none =>
    have hall : (c.reports.flatMap notes).flatMap Event.convertedText = [] := hsaid fun e he => by
      obtain ⟨r, -, he⟩ := List.mem_flatMap.1 he
      exact hnotes r e he
    simp [List.flatMap_append, hsaid hbefore, hall, text]

/-- saved, it is all that the file holds -/
theorem written_ending (hbefore : ∀ e ∈ before, e.isSaid = true) (hnotes : ∀ r, ∀ e ∈ notes r, e.isSaid = true)
    (place : Place) : ((c.ending before notes).into place).written = some (place, c.text) := by
  rw [Ending.into, convertedText_ending hbefore hnotes]

end

end Conversions

/-! ## The command -/

section

variable {w : World} {o : SettingsOptions} {config : Config} {inputs : List Text}

/-- what `convert` says about the settings before it converts, and how it goes on -/
theorem World.exists_before (hsettings : w.settings o = .ok config) (honce : inputs.count dash ≤ 1)
    (verbosity : Level) :
    ∃ before : List Event, (∀ e ∈ before, e.IsAside) ∧
      (∀ output : Option Text, output.getD [] = [] ∨ output = some dash →
        w.convert verbosity inputs output o =
          (Conversions.run config w.input w.tree (1 < inputs.length) inputs).ending before
            (fun r => if verbosity ≤ Level.info then Conversions.notes (output = some dash) r else [])) ∧
      ∀ path place, path ≠ [] → path ≠ dash → w.tree.findWritable path = .ok place →
        w.convert verbosity inputs (some path) o =
          ((Conversions.save config w.input (w.tree.put place (.file [])) place (1 < inputs.length) inputs).ending before
            (fun r => if verbosity ≤ Level.info then Conversions.notes true r else [])).into place := by
  have hone : ¬ 1 < inputs.count dash := Nat.not_lt.2 honce
  refine ⟨config.events ++
      if verbosity ≤ Level.info then config.warnings.map fun warning => .warned ("config: " ++ warning.render) else [],
    ?_, ?_, ?_⟩
  · intro e he
    rcases List.mem_append.1 he with hlogged | hwarned
    · obtain ⟨warning, -, rfl⟩ := List.mem_map.1 hlogged
      exact ⟨rfl, fun color => rfl⟩
    · split at hwarned
      · obtain ⟨warning, -, rfl⟩ := List.mem_map.1 hwarned
        exact ⟨rfl, fun color => rfl⟩
      · cases hwarned
  · rintro output (hshown | rfl)
    · have hdash : output ≠ some dash := by
        rintro rfl
        cases hshown
      simp only [convert, if_neg hone, hsettings, hshown, hdash, List.isEmpty_nil, Bool.true_or, if_true,
        decide_eq_true_eq, Bool.not_true, decide_false]
    · simp only [convert, if_neg hone, hsettings, Option.getD_some, decide_true, Bool.or_true, if_true,
        decide_eq_true_eq]
      rfl
  · intro path place hpath hdash hplace
    have hempty : path.isEmpty = false := List.isEmpty_eq_false_iff.2 hpath
    simp only [convert, if_neg hone, hsettings, Option.getD_some, hempty, hdash, hplace, Bool.false_or, decide_false,
      Bool.false_eq_true, if_false, decide_eq_true_eq, Bool.not_false]

variable {arguments : List Text}

/-- shown, the text of `convert` is that of its conversions -/
theorem World.Accepts.shows {output : Option Text} (h : w.Accepts arguments (.convert inputs output o))
    (honce : inputs.count dash ≤ 1) (hsettings : w.settings o = .ok config) (houtput : output.getD [] = []) :
    let c := Conversions.run config w.input w.tree (1 < inputs.length) inputs
    (w.run arguments).output = c.text ∧ (w.run arguments).ending.code = c.exitCode := by
  intro c
  obtain ⟨setup, hrun⟩ := h.runs
  obtain ⟨before, hbefore, hshown, -⟩ := World.exists_before hsettings honce setup.verbosity
  have hdash : output ≠ some dash := by
    rintro rfl
    cases houtput
  rw [hrun]
  show ((w.convert setup.verbosity inputs output o).events.flatMap _ = _) ∧ (w.convert _ inputs output o).code = _
  rw [hshown output (.inl houtput)]
  refine ⟨Conversions.output_ending (fun e he => Conversions.output_of_mem_run he) hbefore (fun r e he => ?_) _,
    Conversions.code_ending _ _⟩
  have he := (List.mem_ite_nil_right.1 he).2
  rw [decide_eq_false hdash] at he
  exact Conversions.isAside_of_mem_notes he

/-- shown under the name of the standard output, it is that too, but the sizes may be printed among it -/
theorem World.Accepts.shows_dash (h : w.Accepts arguments (.convert inputs (some dash) o))
    (honce : inputs.count dash ≤ 1) (hsettings : w.settings o = .ok config) :
    let c := Conversions.run config w.input w.tree (1 < inputs.length) inputs
    (w.run arguments).ending.events.flatMap Event.convertedText = c.text ∧
      (w.run arguments).ending.code = c.exitCode := by
  intro c
  obtain ⟨setup, hrun⟩ := h.runs
  obtain ⟨before, hbefore, hshown, -⟩ := World.exists_before hsettings honce setup.verbosity
  rw [hrun]
  show ((w.convert setup.verbosity inputs (some dash) o).events.flatMap _ = _) ∧ (w.convert _ inputs _ o).code = _
  rw [hshown (some dash) (.inr rfl)]
  refine ⟨Conversions.convertedText_ending (fun e he => (hbefore e he).1) (fun r e he => ?_),
    Conversions.code_ending _ _⟩
  exact Conversions.isSaid_of_mem_notes (List.mem_ite_nil_right.1 he).2

/-- saved, the text of `convert` is that of its conversions into the file, which was emptied -/
theorem World.Accepts.saves {path : Text} {place : Place} (h : w.Accepts arguments (.convert inputs (some path) o))
    (honce : inputs.count dash ≤ 1) (hsettings : w.settings o = .ok config) (hpath : path ≠ []) (hdash : path ≠ dash)
    (hplace : w.tree.findWritable path = .ok place) :
    let c := Conversions.save config w.input (w.tree.put place (.file [])) place (1 < inputs.length) inputs
    (w.run arguments).ending.written = some (place, c.text) ∧ (w.run arguments).ending.code = c.exitCode := by
  intro c
  obtain ⟨setup, hrun⟩ := h.runs
  obtain ⟨before, hbefore, -, hsaved⟩ := World.exists_before hsettings honce setup.verbosity
  rw [hrun]
  show (w.convert setup.verbosity inputs (some path) o).written = _ ∧ (w.convert _ inputs (some path) o).code = _
  rw [hsaved path place hpath hdash hplace]
  refine ⟨Conversions.written_ending (fun e he => (hbefore e he).1) (fun r e he => ?_) place,
    Conversions.code_ending _ _⟩
  exact Conversions.isSaid_of_mem_notes (List.mem_ite_nil_right.1 he).2

end

end Linewise
