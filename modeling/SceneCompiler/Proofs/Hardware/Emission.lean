import SceneCompiler.Hardware.Emission

/-!
# What a finished emission consists of

An emission that did not fail is the emissions of its parts, one after another. This is stated as a
principle of induction (`Emission.forEach_induction`), so that a property of single emissions is
carried through a run without looking at failures again.
-/

namespace SceneCompiler

namespace Emission

variable {σ α : Type}

theorem andThen_failure {first : Emission σ} {next : σ → Emission σ}
    (h : (first.andThen next).failure = none) :
    first.failure = none ∧ (next first.state).failure = none := by
  unfold andThen at h
  cases hfirst : first.failure with
  | some failure =>
    rw [hfirst] at h
    simp [hfirst] at h
  | none =>
    rw [hfirst] at h
    exact ⟨rfl, h⟩

theorem andThen_state {first : Emission σ} {next : σ → Emission σ} (h : first.failure = none) :
    (first.andThen next).state = (next first.state).state := by
  rw [andThen, h]

theorem andThen_commands {first : Emission σ} {next : σ → Emission σ} (h : first.failure = none) :
    (first.andThen next).commands = first.commands ++ (next first.state).commands := by
  rw [andThen, h]

/-- What holds of an empty run and is carried over one more emission in front holds of every run
that does not fail. -/
theorem forEach_induction {emit : σ → α → Emission σ}
    {R : σ → List α → List Command → σ → Prop} (nil : ∀ s, R s [] [] s)
    (cons : ∀ s a rest commands reached, (emit s a).failure = none →
      R (emit s a).state rest commands reached →
      R s (a :: rest) ((emit s a).commands ++ commands) reached)
    {s : σ} {list : List α} (h : (forEach emit s list).failure = none) :
    R s list (forEach emit s list).commands (forEach emit s list).state := by
  induction list generalizing s with
  | nil => exact nil s
  | cons a rest ih =>
    obtain ⟨hfirst, hrest⟩ := andThen_failure h
    have hstep := cons s a rest _ _ hfirst (ih hrest)
    rw [forEach, andThen_commands hfirst, andThen_state hfirst]
    exact hstep

end Emission

end SceneCompiler
