import VianiumVoip.Lib.Bytes

/-!
# Reads with a trace

A computation over a buffer that keeps a record of what it reads: every index that it looks at through a pointer, and
every copy of a whole vector.  Nothing stops a read outside the buffer (it finds zeros there); that there is none is
what one proves of the trace.

`Reads P c` says that all of the trace of `c` satisfies `P`.  It has one rule for each way to put computations together
(`reads_pure`, `Reads.bind`, `reads_ite`), and one for each access.  `Meets P Q c` says besides that the value satisfies
`Q`, which what comes behind may use.
-/

namespace VianiumVoip.Lib

/-- What one access looks at. -/
inductive Access
  /-- The byte at an index. -/
  | byte (i : ℕ)
  /-- A vector of `n` bytes, copied as a whole. -/
  | whole (n : ℕ)
  deriving DecidableEq, Repr

/-- No index from `n` on is looked at. -/
def Access.Below (n : ℕ) : Access → Prop
  | byte i => i < n
  | whole m => m ≤ n

/-- A single byte is looked at below `n` only. -/
def Access.ByteBelow (n : ℕ) : Access → Prop
  | byte i => i < n
  | whole _ => True

instance (n : ℕ) (a : Access) : Decidable (a.Below n) := by
  cases a <;> unfold Access.Below <;> infer_instance

instance (n : ℕ) (a : Access) : Decidable (a.ByteBelow n) := by
  cases a <;> unfold Access.ByteBelow <;> infer_instance

theorem drop_eq_getD_cons {b : Bytes} {i : ℕ} (h : i < b.length) : b.drop i = b.getD i 0 :: b.drop (i + 1) := by
  rw [List.drop_eq_getElem_cons h, List.getD_eq_getElem _ _ h]

structure Traced (α : Type) where
  value : α
  trace : List Access := []

namespace Traced

variable {α β : Type}

/-- One computation after another, with the one trace behind the other. -/
def andThen (c : Traced α) (f : α → Traced β) : Traced β :=
  { value := (f c.value).value, trace := c.trace ++ (f c.value).trace }

instance : Monad Traced where
  pure x := { value := x }
  bind := andThen

@[simp] theorem value_pure (x : α) : (pure x : Traced α).value = x := rfl
@[simp] theorem trace_pure (x : α) : (pure x : Traced α).trace = [] := rfl

@[simp] theorem value_bind (c : Traced α) (f : α → Traced β) : (c >>= f).value = (f c.value).value := rfl

@[simp] theorem trace_bind (c : Traced α) (f : α → Traced β) :
    (c >>= f).trace = c.trace ++ (f c.value).trace := rfl

@[simp] theorem value_ite (p : Prop) [Decidable p] (c d : Traced α) :
    (if p then c else d).value = if p then c.value else d.value := by
  split <;> rfl

theorem value_ite_eq {p : Prop} [Decidable p] {c d : Traced α} {x y : α} (hc : p → c.value = x)
    (hd : ¬ p → d.value = y) : (if p then c else d).value = if p then x else y := by
  by_cases hp : p
  · rw [if_pos hp, if_pos hp, hc hp]
  · rw [if_neg hp, if_neg hp, hd hp]

/-! ### Accesses -/

/-- `b[i]` -/
def byteAt (b : Bytes) (i : ℕ) : Traced UInt8 := { value := b.getD i 0, trace := [.byte i] }

/-- The bytes from `b + i` to `b + i + n`. -/
def slice (b : Bytes) (i n : ℕ) : Traced Bytes :=
  { value := (b.drop i).take n, trace := (List.range' i n).map .byte }

/-- A copy of the vector. -/
def copy (b : Bytes) : Traced Bytes := { value := b, trace := [.whole b.length] }

def loadBE16At (b : Bytes) (i : ℕ) : Traced UInt16 := do return loadBE16 (← slice b i 2)
def loadBE32At (b : Bytes) (i : ℕ) : Traced UInt32 := do return loadBE32 (← slice b i 4)
def loadBE64At (b : Bytes) (i : ℕ) : Traced UInt64 := do return loadBE64 (← slice b i 8)
def loadLE16At (b : Bytes) (i : ℕ) : Traced UInt16 := do return loadLE16 (← slice b i 2)
def loadLE32At (b : Bytes) (i : ℕ) : Traced UInt32 := do return loadLE32 (← slice b i 4)

@[simp] theorem value_byteAt (b : Bytes) (i : ℕ) : (byteAt b i).value = b.getD i 0 := rfl
@[simp] theorem value_slice (b : Bytes) (i n : ℕ) : (slice b i n).value = (b.drop i).take n := rfl
@[simp] theorem value_copy (b : Bytes) : (copy b).value = b := rfl

@[simp] theorem value_loadBE16At (b : Bytes) (i : ℕ) : (loadBE16At b i).value = loadBE16 (b.drop i) := by
  simp [loadBE16At, loadBE16, List.take_take]

@[simp] theorem value_loadBE32At (b : Bytes) (i : ℕ) : (loadBE32At b i).value = loadBE32 (b.drop i) := by
  simp [loadBE32At, loadBE32, List.take_take]

@[simp] theorem value_loadBE64At (b : Bytes) (i : ℕ) : (loadBE64At b i).value = loadBE64 (b.drop i) := by
  simp [loadBE64At, loadBE64, List.take_take]

@[simp] theorem value_loadLE16At (b : Bytes) (i : ℕ) : (loadLE16At b i).value = loadLE16 (b.drop i) := by
  simp [loadLE16At, loadLE16, List.take_take]

@[simp] theorem value_loadLE32At (b : Bytes) (i : ℕ) : (loadLE32At b i).value = loadLE32 (b.drop i) := by
  simp [loadLE32At, loadLE32, List.take_take]

/-! ### What a computation reads -/

/-- Every access of the computation satisfies `P`. -/
def Reads (P : Access → Prop) (c : Traced α) : Prop := ∀ a ∈ c.trace, P a

variable {P Q : Access → Prop} {c d : Traced α} {f : α → Traced β} {b : Bytes} {i n m : ℕ}

theorem reads_pure (x : α) : Reads P (pure x : Traced α) := by
  intro a ha
  cases ha

theorem Reads.bind (hc : Reads P c) (hf : Reads P (f c.value)) : Reads P (c >>= f) := by
  intro a ha
  rw [trace_bind, List.mem_append] at ha
  rcases ha with ha | ha
  · exact hc a ha
  · exact hf a ha

theorem reads_bind_iff : Reads P (c >>= f) ↔ Reads P c ∧ Reads P (f c.value) := by
  simp only [Reads, trace_bind, List.forall_mem_append]

theorem reads_ite {p : Prop} [Decidable p] (hc : p → Reads P c) (hd : ¬ p → Reads P d) :
    Reads P (if p then c else d) := by
  by_cases hp : p
  · rw [if_pos hp]
    exact hc hp
  · rw [if_neg hp]
    exact hd hp

theorem Reads.mono (hc : Reads P c) (h : ∀ a, P a → Q a) : Reads Q c := by
  intro a ha
  exact h a (hc a ha)

/-- `P` holds of the single bytes below `n`. -/
def Covers (P : Access → Prop) (n : ℕ) : Prop := ∀ i < n, P (.byte i)

theorem Covers.mono (h : Covers P n) (hle : m ≤ n) : Covers P m := by
  intro i hi
  exact h i (by omega)

theorem reads_byteAt (h : Covers P n) (hi : i < n) : Reads P (byteAt b i) := by
  intro a ha
  rw [byteAt, List.mem_singleton] at ha
  rw [ha]
  exact h i hi

theorem reads_slice (h : Covers P n) (hi : i + m ≤ n) : Reads P (slice b i m) := by
  intro a ha
  obtain ⟨j, hj, rfl⟩ := List.mem_map.1 ha
  rw [List.mem_range'_1] at hj
  exact h j (by omega)

theorem reads_copy (h : P (.whole b.length)) : Reads P (copy b) := by
  intro a ha
  rw [copy, List.mem_singleton] at ha
  rw [ha]
  exact h

theorem reads_loadBE16At (h : Covers P n) (hi : i + 2 ≤ n) : Reads P (loadBE16At b i) :=
  (reads_slice h hi).bind (reads_pure _)

theorem reads_loadBE32At (h : Covers P n) (hi : i + 4 ≤ n) : Reads P (loadBE32At b i) :=
  (reads_slice h hi).bind (reads_pure _)

theorem reads_loadBE64At (h : Covers P n) (hi : i + 8 ≤ n) : Reads P (loadBE64At b i) :=
  (reads_slice h hi).bind (reads_pure _)

theorem reads_loadLE16At (h : Covers P n) (hi : i + 2 ≤ n) : Reads P (loadLE16At b i) :=
  (reads_slice h hi).bind (reads_pure _)

theorem reads_loadLE32At (h : Covers P n) (hi : i + 4 ≤ n) : Reads P (loadLE32At b i) :=
  (reads_slice h hi).bind (reads_pure _)

/-! ### What a computation reads and returns -/

/-- Every access of the computation satisfies `P`, and its value `Q`. -/
def Meets (P : Access → Prop) (Q : α → Prop) (c : Traced α) : Prop := Reads P c ∧ Q c.value

variable {A B : α → Prop} {C : β → Prop}

theorem meets_pure {x : α} (h : A x) : Meets P A (pure x : Traced α) := ⟨reads_pure x, h⟩

theorem Meets.bind (hc : Meets P A c) (hf : ∀ x, A x → Meets P C (f x)) : Meets P C (c >>= f) :=
  ⟨hc.1.bind (hf _ hc.2).1, (hf _ hc.2).2⟩

theorem meets_ite {p : Prop} [Decidable p] (hc : p → Meets P A c) (hd : ¬ p → Meets P A d) :
    Meets P A (if p then c else d) := by
  by_cases hp : p
  · rw [if_pos hp]
    exact hc hp
  · rw [if_neg hp]
    exact hd hp

theorem Meets.mono (hc : Meets P A c) (h : ∀ x, A x → B x) : Meets P B c := ⟨hc.1, h _ hc.2⟩

theorem meets_byteAt (h : Covers P n) (hi : i < n) : Meets P (fun x => x = b.getD i 0) (byteAt b i) :=
  ⟨reads_byteAt h hi, rfl⟩

theorem meets_slice (h : Covers P n) (hi : i + m ≤ n) : Meets P (fun x => x = (b.drop i).take m) (slice b i m) :=
  ⟨reads_slice h hi, rfl⟩

end Traced

end VianiumVoip.Lib
