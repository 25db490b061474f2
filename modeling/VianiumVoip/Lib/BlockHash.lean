import VianiumVoip.Lib.Bytes

/-!
# Hashing block by block

A compression function over the blocks of a message (`absorb`), and the state of a hash that is fed in parts: what it has
absorbed, and the bytes that wait for the rest of their block (`Buffered`).
-/

namespace VianiumVoip.Lib.BlockHash

variable {σ : Type} (compress : σ → Bytes → σ) (n : ℕ)

/-- The whole blocks of `n` bytes of a message. -/
def absorb (s : σ) (m : Bytes) : σ :=
  (List.range (m.length / n)).foldl (fun s i => compress s ((m.drop (n * i)).take n)) s

variable {compress n}

theorem absorb_of_lt {m : Bytes} (h : m.length < n) (s : σ) : absorb compress n s m = s := by
  rw [absorb, Nat.div_eq_of_lt h]
  rfl

theorem absorb_block {b : Bytes} (hn : 0 < n) (hb : b.length = n) (s : σ) (m : Bytes) :
    absorb compress n s (b ++ m) = absorb compress n (compress s b) m := by
  have hcount : (b ++ m).length / n = m.length / n + 1 := by rw [List.length_append, hb, Nat.add_div_left _ hn]
  have hfirst : ((b ++ m).drop (n * 0)).take n = b := by rw [Nat.mul_zero, List.drop_zero, ← hb, List.take_left]
  have hnext : ∀ i, ((b ++ m).drop (n * (i + 1))).take n = (m.drop (n * i)).take n := by
    intro i
    rw [Nat.mul_succ, Nat.add_comm, ← List.drop_drop]
    congr 2
    rw [← hb, List.drop_left]
  simp only [absorb, hcount, List.range_succ_eq_map, List.foldl_cons, List.foldl_map, hfirst, hnext]

theorem absorb_append {whole : Bytes} (hn : 0 < n) (hwhole : n ∣ whole.length) (s : σ) (m : Bytes) :
    absorb compress n s (whole ++ m) = absorb compress n (absorb compress n s whole) m := by
  obtain ⟨k, hk⟩ := hwhole
  induction k generalizing s whole with
  | zero =>
    obtain rfl : whole = [] := List.eq_nil_of_length_eq_zero hk
    rw [List.nil_append, absorb_of_lt (m := []) hn]
  | succ k ih =>
    have hblock : (whole.take n).length = n := by
      rw [List.length_take, hk, Nat.mul_succ]
      exact Nat.min_eq_left (Nat.le_add_left _ _)
    have hrest : (whole.drop n).length = n * k := by
      rw [List.length_drop, hk, Nat.mul_succ, Nat.add_sub_cancel]
    conv_lhs => rw [← List.take_append_drop n whole, List.append_assoc, absorb_block hn hblock, ih _ hrest]
    conv_rhs => rw [← List.take_append_drop n whole, absorb_block hn hblock]

variable (compress n)

/-- A hash that began in `s₀` and has been given `m`: it is in `s`, and `tail` waits. -/
def Buffered (s₀ s : σ) (tail m : Bytes) : Prop :=
  ∃ whole, m = whole ++ tail ∧ n ∣ whole.length ∧ tail.length < n ∧ s = absorb compress n s₀ whole

namespace Buffered

variable {compress n} {s₀ s : σ} {tail m : Bytes}

theorem init (hn : 0 < n) (s₀ : σ) : Buffered compress n s₀ s₀ [] [] :=
  ⟨[], rfl, Nat.dvd_zero n, hn, (absorb_of_lt (m := []) hn s₀).symm⟩

theorem length_tail (h : Buffered compress n s₀ s tail m) : tail.length = m.length % n := by
  obtain ⟨whole, rfl, ⟨k, hk⟩, hlt, -⟩ := h
  rw [List.length_append, hk, Nat.mul_add_mod, Nat.mod_eq_of_lt hlt]

theorem wait (h : Buffered compress n s₀ s tail m) {data : Bytes} (hlt : tail.length + data.length < n) :
    Buffered compress n s₀ s (tail ++ data) (m ++ data) := by
  obtain ⟨whole, rfl, hwhole, -, hs⟩ := h
  exact ⟨whole, List.append_assoc _ _ _, hwhole, by rwa [List.length_append], hs⟩

theorem fill (h : Buffered compress n s₀ s tail m) {part : Bytes} (hfull : tail.length + part.length = n) :
    Buffered compress n s₀ (compress s (tail ++ part)) [] (m ++ part) := by
  obtain ⟨whole, rfl, ⟨k, hk⟩, hlt, rfl⟩ := h
  have hn : 0 < n := Nat.zero_lt_of_lt hlt
  have hblock : (tail ++ part).length = n := by rw [List.length_append, hfull]
  refine ⟨whole ++ (tail ++ part), by simp, ⟨k + 1, ?_⟩, hn, ?_⟩
  · rw [List.length_append, hk, hblock, Nat.mul_succ]
  · have hone : absorb compress n _ _ = _ := absorb_block hn hblock (absorb compress n s₀ whole) []
    rw [List.append_nil, absorb_of_lt (m := []) hn] at hone
    rw [absorb_append hn ⟨k, hk⟩, hone]

theorem eq_absorb (h : Buffered compress n s₀ s tail m) (hm : n ∣ m.length) : s = absorb compress n s₀ m := by
  obtain ⟨whole, rfl, hwhole, hlt, rfl⟩ := h
  rw [List.length_append] at hm
  have hnil : tail.length = 0 := Nat.eq_zero_of_dvd_of_lt ((Nat.dvd_add_right hwhole).1 hm) hlt
  rw [List.eq_nil_of_length_eq_zero hnil, List.append_nil]

end Buffered

end VianiumVoip.Lib.BlockHash
