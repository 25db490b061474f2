import Mathlib.Tactic.Common

/-!
# Computations that write and fail

A `Fallible` works on a state and may fail on its way.  Nothing takes back what it has written by then, so a failure may
well leave half of the work behind.  It is `Atomic` when it never does.  Only the order matters: what may fail stands
before what writes.
-/

namespace VianiumVoip.Lib

universe u

abbrev Fallible (ε σ : Type u) : Type u → Type u := ExceptT ε (StateM σ)

namespace Fallible

variable {ε σ α β : Type u}

/-- What the computation returns, and the state it leaves behind. -/
def exec (m : Fallible ε σ α) (s : σ) : Except ε α × σ := StateT.run (ExceptT.run m) s

/-- Fails with `error` if `c`. -/
def failIf {σ : Type} {ε : Type} (c : Prop) [Decidable c] (error : ε) : Fallible ε σ Unit :=
  if c then throw error else pure ()

/-! ### Runs -/

@[simp] theorem exec_pure (a : α) (s : σ) : exec (pure a : Fallible ε σ α) s = (.ok a, s) := rfl

@[simp] theorem exec_throw (error : ε) (s : σ) : exec (throw error : Fallible ε σ α) s = (.error error, s) := rfl

@[simp] theorem exec_get (s : σ) : exec (get : Fallible ε σ σ) s = (.ok s, s) := rfl

@[simp] theorem exec_modify {ε σ : Type} (f : σ → σ) (s : σ) : exec (modify f : Fallible ε σ Unit) s = (.ok (), f s) := rfl

theorem exec_bind_of_ok {m : Fallible ε σ α} {f : α → Fallible ε σ β} {s s' : σ} {a : α} (h : exec m s = (.ok a, s')) :
    exec (m >>= f) s = exec (f a) s' := by
  have hrun : StateT.run (ExceptT.run m) s = (.ok a, s') := h
  simp only [exec, ExceptT.run_bind, StateT.run_bind, hrun]
  rfl

theorem exec_bind_of_error {m : Fallible ε σ α} {f : α → Fallible ε σ β} {s s' : σ} {error : ε}
    (h : exec m s = (.error error, s')) : exec (m >>= f) s = (.error error, s') := by
  have hrun : StateT.run (ExceptT.run m) s = (.error error, s') := h
  simp only [exec, ExceptT.run_bind, StateT.run_bind, hrun]
  rfl

theorem exec_bind (m : Fallible ε σ α) (f : α → Fallible ε σ β) (s : σ) :
    exec (m >>= f) s =
      match exec m s with
      | (.ok a, s') => exec (f a) s'
      | (.error error, s') => (.error error, s') := by
  rcases h : exec m s with ⟨a | a, s'⟩
  · exact exec_bind_of_error h
  · exact exec_bind_of_ok h

theorem exec_failIf {σ ε : Type} (c : Prop) [Decidable c] (error : ε) (s : σ) :
    exec (failIf c error) s = (if c then .error error else .ok (), s) := by
  unfold failIf
  split_ifs <;> rfl

theorem exec_ofExcept (r : Except ε α) (s : σ) : exec (ofExcept r : Fallible ε σ α) s = (r, s) := by
  cases r <;> rfl

/-! ### What a failure leaves behind -/

/-- The state is not written, whatever happens. -/
def ReadOnly (m : Fallible ε σ α) : Prop := ∀ s, (exec m s).2 = s

def NeverFails (m : Fallible ε σ α) : Prop := ∀ s, ∃ a, (exec m s).1 = .ok a

/-- A failure leaves the state as it was. -/
def Atomic (m : Fallible ε σ α) : Prop := ∀ s error, (exec m s).1 = .error error → (exec m s).2 = s

variable {m : Fallible ε σ α} {f : α → Fallible ε σ β}

theorem ReadOnly.atomic (h : ReadOnly m) : Atomic m := fun s _ _ => h s

theorem NeverFails.atomic (h : NeverFails m) : Atomic m := by
  intro s error herror
  obtain ⟨a, ha⟩ := h s
  rw [ha] at herror
  cases herror

/-- Reading first: what follows starts from the same state. -/
theorem ReadOnly.bind_atomic (hm : ReadOnly m) (hf : ∀ a, Atomic (f a)) : Atomic (m >>= f) := by
  intro s error herror
  have hs := hm s
  rcases hexec : exec m s with ⟨a | a, s'⟩
  · rw [hexec] at hs
    rw [exec_bind_of_error hexec]
    exact hs
  · rw [hexec] at hs
    subst hs
    rw [exec_bind_of_ok hexec] at herror ⊢
    exact hf a _ error herror

/-- Once the state is written nothing fails any more. -/
theorem Atomic.bind (hm : Atomic m) (hf : ∀ a, NeverFails (f a)) : Atomic (m >>= f) := by
  intro s error herror
  rcases hexec : exec m s with ⟨a | a, s'⟩
  · have hs := hm s a (congrArg Prod.fst hexec)
    rw [hexec] at hs
    rw [exec_bind_of_error hexec]
    exact hs
  · obtain ⟨b, hb⟩ := hf a s'
    rw [exec_bind_of_ok hexec, hb] at herror
    cases herror

theorem NeverFails.bind (hm : NeverFails m) (hf : ∀ a, NeverFails (f a)) : NeverFails (m >>= f) := by
  intro s
  obtain ⟨a, ha⟩ := hm s
  have hexec : exec m s = (.ok a, (exec m s).2) := Prod.ext ha rfl
  rw [exec_bind_of_ok hexec]
  exact hf a _

theorem neverFails_pure (a : α) : NeverFails (pure a : Fallible ε σ α) := fun _ => ⟨a, rfl⟩

theorem neverFails_modify {ε σ : Type} (g : σ → σ) : NeverFails (modify g : Fallible ε σ Unit) := fun _ => ⟨(), rfl⟩

theorem readOnly_failIf {σ ε : Type} (c : Prop) [Decidable c] (error : ε) :
    ReadOnly (failIf c error : Fallible ε σ Unit) := fun s => by rw [exec_failIf]

theorem readOnly_ofExcept (r : Except ε α) : ReadOnly (ofExcept r : Fallible ε σ α) := fun s => by rw [exec_ofExcept]

end Fallible

end VianiumVoip.Lib
