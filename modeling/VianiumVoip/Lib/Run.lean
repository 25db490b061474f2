import Mathlib.Data.List.Infix
import Mathlib.Tactic.Common

/-!
# Runs of a deterministic machine

A machine is a step function `step : σ → ι → σ`; a run feeds it a list of inputs.  Collected here are the
rules by which facts about one step become facts about a run:

* `Guarded step g s is`: every input of the run meets the guard `g` in the state in which it arrives;
* `invariant_run`: an invariant that guarded steps keep holds at the end of a guarded run;
* `reached_iff_guarded`: where a step keeps `P` *exactly* when its guard holds, `P` holds in every state
  reached exactly when the run is guarded; `guarded_of_reached` where `Inv` needs the guard, too;
* `history`: the observations made along a run, and invariants that speak of the state and the history
  together (`invariant_history`);
* `history_erase`: inputs that leave the state alone and show nothing can be erased from the history.
-/

namespace VianiumVoip.Lib.Run

variable {σ ι ε : Type*} (step : σ → ι → σ)

/-- The state in which a run over the inputs `is` ends. -/
def run (s : σ) (is : List ι) : σ := is.foldl step s

@[simp] theorem run_nil (s : σ) : run step s [] = s := rfl

@[simp] theorem run_cons (s : σ) (i : ι) (is : List ι) : run step s (i :: is) = run step (step s i) is := rfl

theorem run_append (s : σ) (is js : List ι) : run step s (is ++ js) = run step (run step s is) js :=
  List.foldl_append ..

theorem run_concat (s : σ) (is : List ι) (i : ι) : run step s (is ++ [i]) = step (run step s is) i := by
  simp [run_append]

/-! ### Guarded runs -/

/-- Every input of the run meets the guard `g` in the state in which it arrives. -/
def Guarded (g : σ → ι → Prop) : σ → List ι → Prop
  | _, [] => True
  | s, i :: is => g s i ∧ Guarded g (step s i) is

instance (g : σ → ι → Prop) [∀ s i, Decidable (g s i)] : ∀ s is, Decidable (Guarded step g s is)
  | _, [] => inferInstanceAs (Decidable True)
  | s, i :: is =>
    have := instDecidableGuarded g (step s i) is
    inferInstanceAs (Decidable (g s i ∧ Guarded step g (step s i) is))

variable {step} {g : σ → ι → Prop}

@[simp] theorem guarded_nil (s : σ) : Guarded step g s [] := trivial

@[simp] theorem guarded_cons {s : σ} {i : ι} {is : List ι} :
    Guarded step g s (i :: is) ↔ g s i ∧ Guarded step g (step s i) is := Iff.rfl

theorem guarded_append {s : σ} {is js : List ι} :
    Guarded step g s (is ++ js) ↔ Guarded step g s is ∧ Guarded step g (run step s is) js := by
  induction is generalizing s with
  | nil => simp
  | cons i is ih => simp [ih, and_assoc]

/-- What a run is guarded by, in the words of the single step. -/
theorem guarded_iff {s : σ} {is : List ι} :
    Guarded step g s is ↔ ∀ pre i post, is = pre ++ i :: post → g (run step s pre) i := by
  induction is generalizing s with
  | nil => simp
  | cons i is ih =>
    rw [guarded_cons, ih]
    constructor
    · rintro ⟨hi, h⟩ pre j post heq
      rcases pre with _ | ⟨p, pre⟩
      · cases heq
        exact hi
      · cases heq
        exact h pre j post rfl
    · intro h
      exact ⟨h [] i is rfl, fun pre j post heq => h (i :: pre) j post (by rw [heq]; rfl)⟩

theorem guarded_of_forall_mem {s : σ} {is : List ι} (h : ∀ i ∈ is, ∀ s, g s i) : Guarded step g s is := by
  rw [guarded_iff]
  rintro pre i post rfl
  exact h i (List.mem_append_right _ List.mem_cons_self) _

theorem Guarded.mono {g' : σ → ι → Prop} (hg : ∀ s i, g s i → g' s i) {s : σ} {is : List ι}
    (h : Guarded step g s is) : Guarded step g' s is := by
  rw [guarded_iff] at h ⊢
  exact fun pre i post heq => hg _ _ (h pre i post heq)

theorem Guarded.and {g' : σ → ι → Prop} {s : σ} {is : List ι} (h : Guarded step g s is)
    (h' : Guarded step g' s is) : Guarded step (fun s i => g s i ∧ g' s i) s is := by
  rw [guarded_iff] at h h' ⊢
  intro pre i post heq
  exact ⟨h pre i post heq, h' pre i post heq⟩

/-- **The invariant rule.**  An invariant kept by guarded steps holds after a guarded run. -/
theorem invariant_run {Inv : σ → Prop} (hstep : ∀ s i, Inv s → g s i → Inv (step s i)) {s : σ}
    {is : List ι} (h0 : Inv s) (hg : Guarded step g s is) : Inv (run step s is) := by
  induction is generalizing s with
  | nil => exact h0
  | cons i is ih => exact ih (hstep s i h0 hg.1) hg.2

/-- An invariant kept by every step holds after every run. -/
theorem invariant_run_of_step {I : σ → Prop} (hstep : ∀ s i, I s → I (step s i)) {s : σ} (is : List ι)
    (h0 : I s) : I (run step s is) := by
  induction is generalizing s with
  | nil => exact h0
  | cons i is ih => exact ih (hstep s i h0)

/-- **The exact rule.**  If a step keeps `P` exactly when its guard holds, then `P` holds in every state
that a run reaches exactly when the run is guarded. -/
theorem reached_iff_guarded {Inv P : σ → Prop} (hinv : ∀ s i, Inv s → Inv (step s i))
    (hstep : ∀ s i, Inv s → P s → (P (step s i) ↔ g s i)) {s : σ} (is : List ι) (hI : Inv s) (h0 : P s) :
    (∀ pre, pre <+: is → P (run step s pre)) ↔ Guarded step g s is := by
  induction is generalizing s with
  | nil =>
    simp only [List.prefix_nil, forall_eq, run_nil, guarded_nil, iff_true]
    exact h0
  | cons i is ih =>
    rw [guarded_cons]
    constructor
    · intro h
      have h1 : P (step s i) := h [i] (by simp)
      refine ⟨(hstep s i hI h0).1 h1, (ih (hinv s i hI) h1).1 fun pre hpre => ?_⟩
      exact h (i :: pre) (List.cons_prefix_cons.2 ⟨rfl, hpre⟩)
    · rintro ⟨hi, his⟩ pre hpre
      have h1 : P (step s i) := (hstep s i hI h0).2 hi
      rcases pre with _ | ⟨j, pre⟩
      · exact h0
      · obtain ⟨rfl, htail⟩ := List.cons_prefix_cons.1 hpre
        exact (ih (hinv s j hI) h1).2 his pre htail

/-- **Only guarded runs keep `P`**, where a step that does not meet its guard breaks `P` at once. -/
theorem guarded_of_reached {Inv P : σ → Prop} (hkeeps : ∀ s i, Inv s → g s i → Inv (step s i))
    (hbreaks : ∀ s i, Inv s → ¬ g s i → ¬ P (step s i)) {s : σ} {is : List ι} (hI : Inv s)
    (h : ∀ pre, pre <+: is → P (run step s pre)) : Guarded step g s is := by
  induction is generalizing s with
  | nil => exact guarded_nil s
  | cons i is ih =>
    have hi : g s i := by
      by_contra hnot
      exact hbreaks s i hI hnot (h [i] (by simp))
    exact ⟨hi, ih (hkeeps s i hI hi) fun pre hpre => h (i :: pre) (List.cons_prefix_cons.2 ⟨rfl, hpre⟩)⟩

theorem Guarded.of_prefix {s : σ} {pre is : List ι} (h : Guarded step g s is) (hpre : pre <+: is) :
    Guarded step g s pre := by
  obtain ⟨post, rfl⟩ := hpre
  exact (guarded_append.1 h).1

/-- The exact rule where the step needs no invariant. -/
theorem reached_iff_guarded_of_step {P : σ → Prop} (hstep : ∀ s i, P s → (P (step s i) ↔ g s i)) {s : σ} (is : List ι)
    (h0 : P s) : (∀ pre, pre <+: is → P (run step s pre)) ↔ Guarded step g s is := by
  have hstep' : ∀ s i, True → P s → (P (step s i) ↔ g s i) := fun s i _ h => hstep s i h
  exact reached_iff_guarded (fun _ _ _ => trivial) hstep' is trivial h0

/-- **The rule of a rank.**  An input that lowers a rank wherever it is not done, repeated, gets there. -/
theorem exists_run_replicate {Inv done : σ → Prop} {rank : σ → ℕ} {i : ι}
    (hstep : ∀ s, Inv s → ¬ done s → Inv (step s i) ∧ rank (step s i) < rank s) {s : σ} (h : Inv s) :
    ∃ n, Inv (run step s (List.replicate n i)) ∧ done (run step s (List.replicate n i)) := by
  induction hrank : rank s using Nat.strong_induction_on generalizing s with
  | _ m ih =>
    by_cases hdone : done s
    · exact ⟨0, h, hdone⟩
    · obtain ⟨hInv, hlt⟩ := hstep s h hdone
      obtain ⟨n, hn⟩ := ih (rank (step s i)) (hrank ▸ hlt) hInv rfl
      exact ⟨n + 1, by rwa [List.replicate_succ, run_cons]⟩

/-! ### Observations along a run -/

variable (step) in
/-- What `observe` sees of a run, in order. -/
def history (observe : σ → ι → Option ε) : σ → List ι → List ε
  | _, [] => []
  | s, i :: is => (observe s i).toList ++ history observe (step s i) is

variable {observe : σ → ι → Option ε}

@[simp] theorem history_nil (s : σ) : history step observe s [] = [] := rfl

@[simp] theorem history_cons (s : σ) (i : ι) (is : List ι) :
    history step observe s (i :: is) = (observe s i).toList ++ history step observe (step s i) is := rfl

theorem history_map {ζ : Type*} (f : ε → ζ) (s : σ) (is : List ι) :
    (history step observe s is).map f = history step (fun s i => (observe s i).map f) s is := by
  induction is generalizing s with
  | nil => rfl
  | cons i is ih => cases h : observe s i <;> simp [h, ih]

theorem history_append (s : σ) (is js : List ι) :
    history step observe s (is ++ js) = history step observe s is ++ history step observe (run step s is) js := by
  induction is generalizing s with
  | nil => rfl
  | cons i is ih => rw [List.cons_append, history_cons, ih, history_cons, List.append_assoc, run_cons]

/-- **The invariant rule with a history.**  An invariant of the state and of what was observed so far,
kept by guarded steps, holds after a guarded run. -/
theorem invariant_history {Inv : σ → List ε → Prop}
    (hstep : ∀ s h i, Inv s h → g s i → Inv (step s i) (h ++ (observe s i).toList)) {s : σ} {h : List ε}
    {is : List ι} (h0 : Inv s h) (hg : Guarded step g s is) :
    Inv (run step s is) (h ++ history step observe s is) := by
  induction is generalizing s h with
  | nil => simpa using h0
  | cons i is ih =>
    have := ih (hstep s h i h0 hg.1) hg.2
    rwa [List.append_assoc] at this

/-! ### Inputs that do nothing -/

section Erase

variable {keep : ι → Bool}

/-- Inputs that leave the state alone and show nothing where they arrive can be erased from the history. -/
theorem history_erase {s : σ} {is : List ι}
    (h : Guarded step (fun s i => keep i = false → step s i = s ∧ observe s i = none) s is) :
    history step observe s is = history step observe s (is.filter keep) := by
  induction is generalizing s with
  | nil => rfl
  | cons i is ih =>
    rw [history_cons, ih h.2]
    cases hk : keep i with
    | true => rw [List.filter_cons_of_pos hk, history_cons]
    | false =>
      obtain ⟨hstep, hobs⟩ := h.1 hk
      rw [List.filter_cons_of_neg (by simp [hk]), hstep, hobs]
      rfl

end Erase

end VianiumVoip.Lib.Run
