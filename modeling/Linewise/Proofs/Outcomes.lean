/-
Steps that may fail, one after another.

Reading, checking and looking up give a value or a fault, and the first fault ends what is made of such steps. So the
whole succeeds just if every step does (`bind_eq_ok_iff`, `forM_eq_ok_iff`), and fails as the first step that does
(`bind_eq_error_iff`).
-/
namespace Linewise

section

variable {α β ε ε' : Type} {x : Except ε α} {a : α} {b : β} {fault : ε}

theorem exists_ok_of_isOk (h : x.isOk = true) : ∃ a, x = .ok a := by
  cases x with
  | error e => cases h
  | ok a => exact ⟨a, rfl⟩

/-- a value goes to the next step -/
theorem ok_bind (a : α) (f : α → Except ε β) : (Except.ok a >>= f) = f a := rfl

theorem bind_eq_ok_iff {f : α → Except ε β} : x >>= f = .ok b ↔ ∃ a, x = .ok a ∧ f a = .ok b := by
  cases x <;> simp [bind, Except.bind]

theorem bind_eq_error_iff {f : α → Except ε β} :
    x >>= f = .error fault ↔ x = .error fault ∨ ∃ a, x = .ok a ∧ f a = .error fault := by
  cases x <;> simp [bind, Except.bind]

theorem map_eq_ok_iff {f : α → β} : x.map f = .ok b ↔ ∃ a, x = .ok a ∧ f a = b := by
  cases x <;> simp [Except.map]

theorem map_eq_error_iff {f : α → β} : x.map f = .error fault ↔ x = .error fault := by
  cases x <;> simp [Except.map]

theorem mapError_eq_ok_iff {f : ε → ε'} : x.mapError f = .ok a ↔ x = .ok a := by
  cases x with
  | error e => exact iff_of_false (by rintro ⟨⟩) (by rintro ⟨⟩)
  | ok b => exact ⟨fun h => congrArg _ (Except.ok.inj h), fun h => congrArg _ (Except.ok.inj h)⟩

/-- checks of a list succeed just if each of them does -/
theorem forM_eq_ok_iff {f : α → Except ε Unit} {as : List α} : as.forM f = .ok () ↔ ∀ a ∈ as, f a = .ok () := by
  induction as with
  | nil => exact iff_of_true rfl (by simp)
  | cons a rest ih =>
    have hbind : (a :: rest).forM f = f a >>= fun _ => rest.forM f := rfl
    rw [hbind, bind_eq_ok_iff, List.forall_mem_cons, ← ih]
    exact ⟨fun ⟨_, hfirst, hrest⟩ => ⟨hfirst, hrest⟩, fun ⟨hfirst, hrest⟩ => ⟨(), hfirst, hrest⟩⟩

/-- and fail as one of them -/
theorem exists_error_of_forM {f : α → Except ε Unit} {as : List α} (h : as.forM f = .error fault) :
    ∃ a ∈ as, f a = .error fault := by
  induction as with
  | nil => cases h
  | cons a rest ih =>
    have hbind : (a :: rest).forM f = f a >>= fun _ => rest.forM f := rfl
    rw [hbind, bind_eq_error_iff] at h
    rcases h with hfirst | ⟨_, -, hrest⟩
    · exact ⟨a, List.mem_cons_self, hfirst⟩
    · obtain ⟨b, hb, hfault⟩ := ih hrest
      exact ⟨b, List.mem_cons_of_mem a hb, hfault⟩

end

end Linewise
