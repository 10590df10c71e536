/-
From the arguments of the program to what a command does.

Before a command runs, the options before it are counted, the level of the log is read from the environment, and the paths
that its own options name are looked at; each of these can end the program. `World.Accepts` says that none does, and then
the program does what the command does (`World.Accepts.runs`).
-/
import Linewise.CommandLine.Session

namespace Linewise

/-- the program reads its arguments as a command, and nothing stands against it before it runs -/
structure World.Accepts (w : World) (arguments : List Text) (c : Command) : Prop where
  read : Command.ofArguments? arguments = some c
  /-- the paths that the options name can be used -/
  check : c.check w.tree = .ok ()
  /-- the counts of `-v` and `-q` and the level that the environment sets make sense -/
  setUp : (w.run arguments).setup.isSome = true

/-- what the program does with arguments that are read as a command -/
theorem World.exists_request (w : World) {arguments : List Text} {c : Command}
    (h : Command.ofArguments? arguments = some c) :
    ∃ g : GroupRequest, w.run arguments = w.runRequest g fun setup =>
      match c.check w.tree with
      | .error halt => halt.ending []
      | .ok () => w.runCommand setup.verbosity c := by
  unfold Command.ofArguments? at h
  split at h
  · rename_i g hgroup
    obtain ⟨⟨name, rest⟩, hname, h⟩ := Option.bind_eq_some_iff.1 h
    obtain ⟨commandName, hcommand, h⟩ := Option.bind_eq_some_iff.1 h
    have hfind : findCommand name rest = .ok commandName := by rw [findCommand, hcommand]
    have hread : Command.read commandName rest = .ok (.request c) := by
      split at h
      · rename_i hread
        rw [hread, Option.some.inj h]
      · cases h
    have hnamed (setup : Setup) : w.runNamed setup.verbosity commandName rest =
        match c.check w.tree with
        | .error halt => halt.ending []
        | .ok () => w.runCommand setup.verbosity c := by
      cases hcheck : c.check w.tree <;> simp only [runNamed, hread, hcheck]
    refine ⟨g, ?_⟩
    rw [run, hgroup]
    simp only [hname, hfind, hnamed]
  · cases h

/-- the session gets to the command and runs it -/
def World.Runs (w : World) (c : Command) (s : Session) : Prop :=
  ∃ setup : Setup, s = { setup := some setup, ending := w.runCommand setup.verbosity c }

/-- an accepted command runs -/
theorem World.Accepts.runs {w : World} {arguments : List Text} {c : Command} (h : w.Accepts arguments c) :
    w.Runs c (w.run arguments) := by
  obtain ⟨g, hrun⟩ := w.exists_request h.read
  have hsetUp := h.setUp
  rw [hrun, runRequest] at hsetUp ⊢
  cases hg : w.setUp g with
  | error halt =>
    rw [hg] at hsetUp
    cases hsetUp
  | ok setup => exact ⟨setup, by simp only [h.check]⟩

end Linewise
