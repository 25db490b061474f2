import VianiumVoip.Lib.Run

/-!
# Simulation

A concrete machine and an abstract one, and a relation between their states.  A guarded step of the concrete machine may
be matched by any number of steps of the abstract one, none included.  Then so is a guarded run, state by state
(`Simulates.trace`), and what holds of all abstract runs holds, through the relation, of the concrete ones
(`Simulates.transfer`).
-/

namespace VianiumVoip.Lib.Run

variable {σ ι τ κ : Type*} {step : σ → ι → σ} {g : σ → ι → Prop} {step' : τ → κ → τ} {R : σ → τ → Prop}

variable (step g step' R) in
/-- Every guarded step of the concrete machine is matched by a run of the abstract one. -/
def Simulates : Prop := ∀ s t i, R s t → g s i → ∃ js, R (step s i) (run step' t js)

/-- **A guarded run is matched by a run**, with the steps for each of its inputs: the two are related all the way. -/
theorem Simulates.trace (h : Simulates step g step' R) {s : σ} {t : τ} {is : List ι} (hR : R s t)
    (hg : Guarded step g s is) : ∃ jss : List (List κ), jss.length = is.length ∧
      ∀ n, R (run step s (is.take n)) (run step' t (jss.take n).flatten) := by
  induction is generalizing s t with
  | nil => exact ⟨[], rfl, fun n => by rwa [List.take_nil, List.take_nil]⟩
  | cons i is ih =>
    obtain ⟨hi, hrest⟩ := hg
    obtain ⟨js, hstep⟩ := h s t i hR hi
    obtain ⟨jss, hlength, htail⟩ := ih hstep hrest
    refine ⟨js :: jss, congrArg (· + 1) hlength, fun n => ?_⟩
    cases n with
    | zero => exact hR
    | succ n =>
      rw [List.take_succ_cons, List.take_succ_cons, List.flatten_cons, run_cons, run_append]
      exact htail n

theorem Simulates.run (h : Simulates step g step' R) {s : σ} {t : τ} {is : List ι} (hR : R s t)
    (hg : Guarded step g s is) : ∃ js, R (run step s is) (run step' t js) := by
  obtain ⟨jss, -, hall⟩ := h.trace hR hg
  refine ⟨(jss.take is.length).flatten, ?_⟩
  have hend := hall is.length
  rwa [List.take_length] at hend

/-- What holds of every abstract run holds, through the relation, of a guarded run of the concrete machine. -/
theorem Simulates.transfer (h : Simulates step g step' R) {s : σ} {t : τ} {is : List ι} (hR : R s t)
    (hg : Guarded step g s is) {P : τ → Prop} {Q : σ → Prop} (hP : ∀ js, P (Run.run step' t js))
    (hQ : ∀ s t, R s t → P t → Q s) : Q (Run.run step s is) := by
  obtain ⟨js, hend⟩ := h.run hR hg
  exact hQ _ _ hend (hP js)

end VianiumVoip.Lib.Run
