import VianiumVoip.Lib.Bytes

/-!
# Reads with bounds

What a program reads through a pointer and an index, with the bounds made visible: `byteAt`, `slice` and the
loads of big-endian fields are faults where an index is outside the buffer, and `first`, the address of
element 0 of a vector, is one where the vector is empty.  A computation with such reads is compared with its
unchecked value by `Returns`.
-/

namespace VianiumVoip.Lib.Checked

inductive Fault
  /-- An index outside the buffer. -/
  | outOfRange
  /-- The address of element 0 of an empty vector. -/
  | emptyVector
  deriving DecidableEq, Repr

/-- `b[i]` -/
def byteAt (b : Bytes) (i : ℕ) : Except Fault UInt8 :=
  if i < b.length then .ok (b.getD i 0) else .error .outOfRange

/-- The bytes from `b + i` to `b + i + n`. -/
def slice (b : Bytes) (i n : ℕ) : Except Fault Bytes :=
  if i + n ≤ b.length then .ok ((b.drop i).take n) else .error .outOfRange

def loadBE16At (b : Bytes) (i : ℕ) : Except Fault UInt16 := (slice b i 2).map loadBE16
def loadBE24At (b : Bytes) (i : ℕ) : Except Fault UInt32 := (slice b i 3).map loadBE24
def loadBE48At (b : Bytes) (i : ℕ) : Except Fault UInt64 := (slice b i 6).map loadBE48

/-- The buffer at `&v[0]`. -/
def first (v : Bytes) : Except Fault Bytes :=
  if v = [] then .error .emptyVector else .ok v

variable {b : Bytes} {i n : ℕ}

theorem byteAt_ok (h : i < b.length) : byteAt b i = .ok (b.getD i 0) := if_pos h

theorem slice_ok (h : i + n ≤ b.length) : slice b i n = .ok ((b.drop i).take n) := if_pos h

theorem loadBE16At_ok (h : i + 2 ≤ b.length) : loadBE16At b i = .ok (loadBE16 (b.drop i)) := by
  rw [loadBE16At, slice_ok h]
  simp [Except.map, loadBE16, List.take_take]

theorem loadBE24At_ok (h : i + 3 ≤ b.length) : loadBE24At b i = .ok (loadBE24 (b.drop i)) := by
  rw [loadBE24At, slice_ok h]
  simp [Except.map, loadBE24, List.take_take]

theorem loadBE48At_ok (h : i + 6 ≤ b.length) : loadBE48At b i = .ok (loadBE48 (b.drop i)) := by
  rw [loadBE48At, slice_ok h]
  simp [Except.map, loadBE48, List.take_take]

theorem first_ok (h : b ≠ []) : first b = .ok b := if_neg h

theorem loadBE16At_zero (h : 2 ≤ b.length) : loadBE16At b 0 = .ok (loadBE16 b) := loadBE16At_ok (by omega)

theorem loadBE24At_zero (h : 3 ≤ b.length) : loadBE24At b 0 = .ok (loadBE24 b) := loadBE24At_ok (by omega)

variable {α β : Type}

@[simp] theorem ok_bind (x : α) (f : α → Except Fault β) : (Except.ok x >>= f) = f x := rfl

@[simp] theorem error_bind (e : Fault) (f : α → Except Fault β) : ((Except.error e : Except Fault α) >>= f) = .error e := rfl

/-- **A computation whose only fault is an empty vector**: it returns `x` where `P` holds and addresses an
empty vector where it does not. -/
def Returns (P : Prop) (c : Except Fault α) (x : α) : Prop :=
  (P → c = .ok x) ∧ (¬P → c = .error .emptyVector)

theorem returns_ok (x : α) : Returns True (.ok x) x := ⟨fun _ => rfl, fun h => absurd trivial h⟩

theorem Returns.iff {P : Prop} {c : Except Fault α} {x : α} (h : Returns P c x) : c = .ok x ↔ P := by
  refine ⟨fun heq => ?_, h.1⟩
  by_contra hP
  cases heq.symm.trans (h.2 hP)

theorem Returns.congr {P Q : Prop} {c : Except Fault α} {x : α} (h : Returns P c x) (hPQ : P ↔ Q) :
    Returns Q c x := ⟨fun hQ => h.1 (hPQ.2 hQ), fun hQ => h.2 fun hP => hQ (hPQ.1 hP)⟩

theorem Returns.bind {P Q : Prop} {c : Except Fault α} {x : α} {f : α → Except Fault β} {y : β}
    (h : Returns P c x) (hf : Returns Q (f x) y) : Returns (P ∧ Q) (c >>= f) y := by
  constructor
  · rintro ⟨hP, hQ⟩
    rw [h.1 hP, ok_bind, hf.1 hQ]
  · intro hPQ
    by_cases hP : P
    · rw [h.1 hP, ok_bind, hf.2 fun hQ => hPQ ⟨hP, hQ⟩]
    · rw [h.2 hP, error_bind]

theorem Returns.map {P : Prop} {c : Except Fault α} {x : α} (h : Returns P c x) (f : α → β) :
    Returns P (c >>= fun y => .ok (f y)) (f x) := (h.bind (returns_ok (f x))).congr (and_iff_left trivial)

end VianiumVoip.Lib.Checked
