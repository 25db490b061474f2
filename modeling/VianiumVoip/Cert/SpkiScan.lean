import VianiumVoip.Cert.EcdsaP256KeyPair
import VianiumVoip.Lib.TracedReads

/-!
# The scan for the public point, read by read

`ExtractUncompressedPointFromSpki` of `infrastructure/ecdsa_p256_keypair.cpp`, with a record of what it looks at.  The
loop runs while `i + 67 <= spki.size()`, tests four bytes at `i` and copies 65 bytes from `i + 3`: a marker that stands
68 bytes or more before the end is served from inside the buffer, one that stands 67 bytes before the end is not.

* `scan_eq` : the loop goes on to the first marker;
* `scan_marker`, `scan_end` : what it does there, and what it does when there is none;
* `wellBehaved_iff` : it stays inside, and returns the point of the first complete marker, exactly when the first
  marker that the loop meets is a complete one.
-/

namespace VianiumVoip.Cert.SpkiScan

open VianiumVoip.Lib VianiumVoip.Lib.Traced

/-! ### The code -/

/-- `std::memcpy` of `n` bytes from `b + i`.  What stands behind the buffer is read as zeros. -/
def memcpy (b : Bytes) (i n : ℕ) : Traced Bytes :=
  { value := List.ofFn fun k : Fin n => b.getD (i + k) 0, trace := (List.range' i n).map .byte }

/-- The four tests, each made when the one in front of it succeeds. -/
def testMarker (spki : Bytes) (i : ℕ) : Traced Bool := do
  if (← byteAt spki i) = 0x03 then
    if (← byteAt spki (i + 1)) = 0x42 then
      if (← byteAt spki (i + 2)) = 0x00 then
        return decide ((← byteAt spki (i + 3)) = 0x04)
      else return false
    else return false
  else return false

/-- The loop from `i` on. -/
def scan (spki : Bytes) (i : ℕ) : Traced Bytes :=
  if i + 67 ≤ spki.length then do
    if ← testMarker spki i then memcpy spki (i + 3) 65 else scan spki (i + 1)
  else return []
termination_by spki.length - i

def extractUncompressedPointFromSpki (spki : Bytes) : Traced Bytes := scan spki 0

/-! ### Markers -/

/-- `BIT STRING, 66 bytes, 0 unused bits, 0x04` at `i`. -/
def MarkerAt (spki : Bytes) (i : ℕ) : Prop := (spki.drop i).take 4 = [0x03, 0x42, 0x00, 0x04]

instance (spki : Bytes) (i : ℕ) : Decidable (MarkerAt spki i) := inferInstanceAs (Decidable (_ = _))

/-- A marker at `i` with 64 bytes behind it. -/
def CompleteAt (spki : Bytes) (i : ℕ) : Prop := MarkerAt spki i ∧ i + 4 + 64 ≤ spki.length

instance (spki : Bytes) (i : ℕ) : Decidable (CompleteAt spki i) := inferInstanceAs (Decidable (_ ∧ _))

/-- What the scan is for: it looks at nothing outside of the buffer, and returns nothing or the 65 bytes that begin
with the `0x04` of the first complete marker. -/
structure WellBehaved (spki : Bytes) : Prop where
  reads : Reads (Access.Below spki.length) (extractUncompressedPointFromSpki spki)
  result : (extractUncompressedPointFromSpki spki).value = [] ∨
    ∃ i, CompleteAt spki i ∧ (∀ j < i, ¬ CompleteAt spki j) ∧
      (extractUncompressedPointFromSpki spki).value = (spki.drop (i + 3)).take 65

variable {spki : Bytes} {i j : ℕ}

theorem value_testMarker (hi : i + 4 ≤ spki.length) :
    (testMarker spki i).value = true ↔ MarkerAt spki i := by
  have hsplit : (spki.drop i).take 4
      = [spki.getD i 0, spki.getD (i + 1) 0, spki.getD (i + 2) 0, spki.getD (i + 3) 0] := by
    rw [drop_eq_getD_cons (by omega), drop_eq_getD_cons (by omega), drop_eq_getD_cons (by omega),
      drop_eq_getD_cons (by omega)]
    rfl
  unfold MarkerAt
  rw [hsplit]
  simp only [testMarker, value_bind, value_byteAt, List.cons.injEq, and_true]
  split_ifs <;> simp_all

theorem reads_testMarker (hi : i + 4 ≤ spki.length) : Reads (Access.Below spki.length) (testMarker spki i) := by
  have hc : Covers (Access.Below spki.length) spki.length := fun k hk => hk
  refine (reads_byteAt hc (by omega)).bind (reads_ite (fun _ => ?_) fun _ => reads_pure _)
  refine (reads_byteAt hc (by omega)).bind (reads_ite (fun _ => ?_) fun _ => reads_pure _)
  refine (reads_byteAt hc (by omega)).bind (reads_ite (fun _ => ?_) fun _ => reads_pure _)
  exact (reads_byteAt hc (by omega)).bind (reads_pure _)

theorem value_memcpy {n : ℕ} (h : i + n ≤ spki.length) : (memcpy spki i n).value = (spki.drop i).take n := by
  refine List.ext_getElem (by simp [memcpy]; omega) fun k hk _ => ?_
  simp only [memcpy, List.length_ofFn] at hk
  simp only [memcpy, List.getElem_ofFn, List.getElem_take, List.getElem_drop]
  exact List.getD_eq_getElem _ _ (by omega)

theorem reads_memcpy_iff {n : ℕ} (hn : 0 < n) :
    Reads (Access.Below spki.length) (memcpy spki i n) ↔ i + n ≤ spki.length := by
  constructor
  · intro h
    have hlast : i + (n - 1) < spki.length := h (.byte (i + (n - 1)))
      (List.mem_map.2 ⟨_, List.mem_range'_1.2 ⟨by omega, by omega⟩, rfl⟩)
    omega
  · intro h a ha
    obtain ⟨k, hk, rfl⟩ := List.mem_map.1 ha
    rw [List.mem_range'_1] at hk
    exact Nat.lt_of_lt_of_le hk.2 h

/-! ### The loop -/

theorem scan_end (hi : spki.length < i + 67) : scan spki i = pure [] := by
  rw [scan, if_neg (by omega)]

theorem scan_step (hi : i + 67 ≤ spki.length) (hnot : ¬ MarkerAt spki i) :
    (scan spki i).value = (scan spki (i + 1)).value ∧
      (Reads (Access.Below spki.length) (scan spki i) ↔ Reads (Access.Below spki.length) (scan spki (i + 1))) := by
  have hfalse : (testMarker spki i).value = false := by
    rwa [← Bool.not_eq_true, value_testMarker (by omega)]
  rw [scan, if_pos hi, value_bind, reads_bind_iff, hfalse]
  exact ⟨rfl, and_iff_right (reads_testMarker (by omega))⟩

theorem scan_marker (hi : i + 67 ≤ spki.length) (hmarker : MarkerAt spki i) :
    (scan spki i).value = (memcpy spki (i + 3) 65).value ∧
      (Reads (Access.Below spki.length) (scan spki i) ↔ i + 68 ≤ spki.length) := by
  have htrue := (value_testMarker (by omega)).2 hmarker
  rw [scan, if_pos hi, value_bind, reads_bind_iff, htrue]
  refine ⟨rfl, ?_⟩
  rw [if_pos rfl, reads_memcpy_iff (by decide)]
  exact and_iff_right (reads_testMarker (by omega))

theorem scan_eq (hij : i ≤ j) (hj : j + 67 ≤ spki.length + 1) (hnone : ∀ k < j, ¬ MarkerAt spki k) :
    (scan spki i).value = (scan spki j).value ∧
      (Reads (Access.Below spki.length) (scan spki i) ↔ Reads (Access.Below spki.length) (scan spki j)) := by
  induction j, hij using Nat.le_induction with
  | base => exact ⟨rfl, Iff.rfl⟩
  | succ j hij ih =>
    have hstep := scan_step (i := j) (by omega) (hnone j (by omega))
    have hbefore := ih (by omega) fun k hk => hnone k (by omega)
    exact ⟨hbefore.1.trans hstep.1, hbefore.2.trans hstep.2⟩

theorem value_scan (spki : Bytes) (i : ℕ) :
    (scan spki i).value = Cert.extractUncompressedPointFromSpki (spki.drop i) := by
  fun_induction scan spki i with
  | case1 i hi ih =>
    have hlen : 67 ≤ (spki.drop i).length := by
      rw [List.length_drop]
      omega
    have hcons : spki.drop i = spki.getD i 0 :: spki.drop (i + 1) := drop_eq_getD_cons (by omega)
    have htest : (testMarker spki i).value = true ↔ (spki.drop i).take 4 = [0x03, 0x42, 0x00, 0x04] :=
      value_testMarker (by omega)
    rw [hcons] at hlen ⊢
    rw [Cert.extractUncompressedPointFromSpki, if_pos hlen, ← hcons, value_bind]
    by_cases hmarker : (testMarker spki i).value = true
    · rw [if_pos hmarker, if_pos (htest.1 hmarker)]
      simp only [memcpy, List.getD_eq_getElem?_getD, List.getElem?_drop, Nat.add_assoc]
    · rw [if_neg hmarker, if_neg (mt htest.2 hmarker)]
      exact ih
  | case2 i hi =>
    rw [value_pure]
    rcases hdrop : spki.drop i with _ | ⟨x, rest⟩
    · rfl
    · have hlen := congrArg List.length hdrop
      rw [List.length_drop] at hlen
      rw [Cert.extractUncompressedPointFromSpki, if_neg (by omega)]

/-- The two models of the scan agree. -/
theorem value_extractUncompressedPointFromSpki (spki : Bytes) :
    (extractUncompressedPointFromSpki spki).value = Cert.extractUncompressedPointFromSpki spki :=
  value_scan spki 0

/-! ### The scan -/

theorem wellBehaved_of_none (hnone : ∀ k, k + 67 ≤ spki.length → ¬ MarkerAt spki k) : WellBehaved spki := by
  by_cases hlen : 67 ≤ spki.length
  · have hend : scan spki (spki.length - 66) = pure [] := scan_end (by omega)
    have hscan := scan_eq (Nat.zero_le (spki.length - 66)) (by omega) fun k hk => hnone k (by omega)
    rw [hend] at hscan
    exact ⟨hscan.2.2 (reads_pure _), Or.inl hscan.1⟩
  · have hend : extractUncompressedPointFromSpki spki = pure [] := scan_end (by omega)
    exact ⟨hend ▸ reads_pure _, Or.inl (congrArg Traced.value hend)⟩

/-- At the first marker in its range the scan copies the point; the copy stays inside when the marker is complete. -/
theorem scan_first (hi : i + 67 ≤ spki.length) (hmarker : MarkerAt spki i) (hfirst : ∀ k < i, ¬ MarkerAt spki k) :
    (extractUncompressedPointFromSpki spki).value = (memcpy spki (i + 3) 65).value ∧
      (Reads (Access.Below spki.length) (extractUncompressedPointFromSpki spki) ↔ i + 68 ≤ spki.length) := by
  have hscan := scan_eq (Nat.zero_le i) (by omega) hfirst
  have hcopy := scan_marker hi hmarker
  exact ⟨hscan.1.trans hcopy.1, hscan.2.trans hcopy.2⟩

theorem wellBehaved_of_first (hi : i + 68 ≤ spki.length) (hmarker : MarkerAt spki i)
    (hfirst : ∀ k < i, ¬ MarkerAt spki k) : WellBehaved spki := by
  obtain ⟨hvalue, hreads⟩ := scan_first (by omega) hmarker hfirst
  refine ⟨hreads.2 hi, Or.inr ⟨i, ⟨hmarker, by omega⟩, fun k hk h => hfirst k hk h.1, ?_⟩⟩
  rw [hvalue, value_memcpy (by omega)]

/-- **The scan stays inside the buffer and finds the first complete marker** exactly when a marker that stands 67 bytes
before the end, and so lacks its last byte, has another one before it. -/
theorem wellBehaved_iff (spki : Bytes) :
    WellBehaved spki ↔ ∀ i, MarkerAt spki i → i + 67 = spki.length → ∃ j < i, MarkerAt spki j := by
  by_cases hrange : ∃ i, i + 67 ≤ spki.length ∧ MarkerAt spki i
  · -- the first marker in the range of the loop decides
    obtain ⟨hi, hmarker⟩ := Nat.find_spec hrange
    have hfirst : ∀ k < Nat.find hrange, ¬ MarkerAt spki k := by
      intro k hk hmk
      exact Nat.find_min hrange hk ⟨by omega, hmk⟩
    constructor
    · intro h i hmi hlast
      have hinside := (scan_first hi hmarker hfirst).2.1 h.reads
      exact ⟨Nat.find hrange, by omega, hmarker⟩
    · intro h
      have hinside : Nat.find hrange + 68 ≤ spki.length := by
        by_contra hlast
        obtain ⟨j, hj, hmj⟩ := h _ hmarker (by omega)
        exact hfirst j hj hmj
      exact wellBehaved_of_first hinside hmarker hfirst
  · have hnone : ∀ k, k + 67 ≤ spki.length → ¬ MarkerAt spki k := fun k hk hmk => hrange ⟨k, hk, hmk⟩
    exact iff_of_true (wellBehaved_of_none hnone) fun i hmi hlast => absurd hmi (hnone i (by omega))

/-- Sixty-seven bytes that begin with the marker: the byte behind the last one is read. -/
theorem reads_behind_end : ¬ ∀ spki : Bytes, WellBehaved spki := by
  intro h
  have hreads := (h ([0x03, 0x42, 0x00, 0x04] ++ List.replicate 63 0)).reads
  rw [(scan_first (i := 0) (by decide) (by decide) fun k hk => absurd hk (Nat.not_lt_zero k)).2] at hreads
  exact absurd hreads (by decide)

theorem not_completeAt_of_value_eq_nil (h : (extractUncompressedPointFromSpki spki).value = []) (i : ℕ) :
    ¬ CompleteAt spki i := by
  intro hi
  have hrange : ∃ k, MarkerAt spki k := ⟨i, hi.1⟩
  have hle := Nat.find_min' hrange hi.1
  have hvalue := (scan_first (by have := hi.2; omega) (Nat.find_spec hrange) fun k hk => Nat.find_min hrange hk).1
  rw [h] at hvalue
  have hlen := congrArg List.length hvalue
  simp [memcpy] at hlen

end VianiumVoip.Cert.SpkiScan
