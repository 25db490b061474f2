import VianiumVoip.Lib.Bytes

/-!
# Attributes padded to four bytes

A message of the STUN family carries a list of attributes: a 16-bit type, a 16-bit length, the value, and padding up
to a multiple of four bytes.  `attributes` is the loop that reads such a list, and `find` the loop that looks for
one attribute and stops at it; `Attribute.encode` writes an attribute.

The two loops visit the same attributes.  What `find` has walked over determines what `attributes` reads there,
whatever stands behind (`attributes_of_find`).
-/

namespace VianiumVoip.Lib.Tlv

structure Attribute where
  type : UInt16
  value : Bytes
  deriving DecidableEq

/-- `4 + length`, rounded up to a multiple of four. -/
def advance (length : ℕ) : ℕ := (4 + length + 3) / 4 * 4

/-- The length field of the attribute at the front. -/
def headLength (area : Bytes) : ℕ := (loadBE16 (area.drop 2)).toNat

/-- The attribute at the front. -/
def head (area : Bytes) : Attribute where
  type := loadBE16 area
  value := (area.drop 4).take (headLength area)

theorem le_advance (length : ℕ) : 4 + length ≤ advance length := by
  unfold advance
  omega

theorem advance_of_dvd {length : ℕ} (h : 4 ∣ length) : advance length = 4 + length := by
  unfold advance
  omega

/-- The attributes of an area; `none` when a value runs past its end.  Fewer than four bytes are padding. -/
def attributes (area : Bytes) : Option (List Attribute) :=
  if 4 ≤ area.length then
    if area.length < 4 + headLength area then none
    else (attributes (area.drop (advance (headLength area)))).map (head area :: ·)
  else some []
termination_by area.length
decreasing_by
  have := le_advance (headLength area)
  rw [List.length_drop]
  omega

variable (p : Attribute → Bool)

/-- The first attribute that satisfies `p`, with its offset; `none` when there is none, or a value before it runs
past the end. -/
def find (area : Bytes) : Option (ℕ × Attribute) :=
  if 4 ≤ area.length then
    if area.length < 4 + headLength area then none
    else if p (head area) then some (0, head area)
    else
      (find (area.drop (advance (headLength area)))).map fun (offset, a) => (advance (headLength area) + offset, a)
  else none
termination_by area.length
decreasing_by
  have := le_advance (headLength area)
  rw [List.length_drop]
  omega

variable {p} {area : Bytes}

theorem attributes_of_short (h : area.length < 4) : attributes area = some [] := by
  rw [attributes, if_neg (by omega)]

/-- A front that covers the first attribute and its padding is read the same way before anything. -/
theorem front_eq (area : Bytes) {n : ℕ} (hn : 4 + headLength area ≤ n) (hlen : n ≤ area.length) (rest : Bytes) :
    headLength (area.take n ++ rest) = headLength area ∧ head (area.take n ++ rest) = head area := by
  have hfront : (area.take n).length = n := by rw [List.length_take]; omega
  have hload : ∀ k, k + 2 ≤ n → loadBE16 ((area.take n ++ rest).drop k) = loadBE16 (area.drop k) := by
    intro k hk
    rw [loadBE16, loadBE16, List.drop_append_of_le_length (by omega),
      List.take_append_of_le_length (by rw [List.length_drop]; omega), List.drop_take, List.take_take,
      Nat.min_eq_left (by omega)]
  have hlength : headLength (area.take n ++ rest) = headLength area := by
    rw [headLength, headLength, hload 2 (by omega)]
  refine ⟨hlength, ?_⟩
  have htype := hload 0 (by omega)
  rw [List.drop_zero, List.drop_zero] at htype
  rw [head, head, hlength, htype, List.drop_append_of_le_length (by omega),
    List.take_append_of_le_length (by rw [List.length_drop]; omega), List.drop_take, List.take_take,
    Nat.min_eq_left (by omega)]

theorem length_head (h : 4 + headLength area ≤ area.length) : (head area).value.length = headLength area := by
  rw [head, List.length_take, List.length_drop]
  omega

theorem take_behind {n m k : ℕ} : area.take (n + m + 4 + k) = area.take n ++ (area.drop n).take (m + 4 + k) := by
  rw [← List.take_add]
  congr 1
  omega

theorem attributes_front {n : ℕ} (hn : n = advance (headLength area)) (hlen : n ≤ area.length) (rest : Bytes) :
    attributes (area.take n ++ rest) = (attributes rest).map (head area :: ·) := by
  have hle := le_advance (headLength area)
  obtain ⟨hlength, hhead⟩ := front_eq area (n := n) (by omega) hlen rest
  have hfront : (area.take n).length = n := by rw [List.length_take]; omega
  have hsize : (area.take n ++ rest).length = n + rest.length := by rw [List.length_append, hfront]
  rw [attributes, if_pos (by omega), hlength, if_neg (by omega), hhead, ← hn, List.drop_left' hfront]

theorem find_front {n : ℕ} (hn : n = advance (headLength area)) (hlen : n ≤ area.length)
    (hskip : p (head area) = false) (rest : Bytes) :
    find p (area.take n ++ rest) = (find p rest).map fun (offset, a) => (n + offset, a) := by
  have hle := le_advance (headLength area)
  obtain ⟨hlength, hhead⟩ := front_eq area (n := n) (by omega) hlen rest
  have hfront : (area.take n).length = n := by rw [List.length_take]; omega
  have hsize : (area.take n ++ rest).length = n + rest.length := by rw [List.length_append, hfront]
  rw [find, if_pos (by omega), hlength, if_neg (by omega), hhead, if_neg (by simp [hskip]), ← hn,
    List.drop_left' hfront]

/-- **What `find` has walked over settles its result**: the attribute lies inside the area, and is found before anything
that may follow it. -/
theorem find_of_front {offset : ℕ} {a : Attribute} (h : find p area = some (offset, a)) :
    p a = true ∧ offset + 4 + a.value.length ≤ area.length ∧
      ∀ rest, find p (area.take (offset + 4 + a.value.length) ++ rest) = some (offset, a) := by
  induction area using find.induct p generalizing offset with
  | case1 area hsize hover =>
    rw [find, if_pos hsize, if_pos hover] at h
    cases h
  | case2 area hsize hover hp =>
    rw [find, if_pos hsize, if_neg hover, if_pos hp, Option.some.injEq, Prod.mk.injEq] at h
    obtain ⟨rfl, rfl⟩ := h
    rw [length_head (by omega)]
    refine ⟨hp, by omega, ?_⟩
    intro rest
    obtain ⟨hlength, hhead⟩ := front_eq area (n := 0 + 4 + headLength area) (by omega) (by omega) rest
    rw [find, if_pos (by simp; omega), hlength, if_neg (by simp; omega), hhead, if_pos hp]
  | case3 area hsize hover hp ih =>
    rw [find, if_pos hsize, if_neg hover, if_neg hp, Option.map_eq_some_iff] at h
    obtain ⟨⟨offset', a'⟩, hfind, heq⟩ := h
    rw [Prod.mk.injEq] at heq
    obtain ⟨rfl, rfl⟩ := heq
    obtain ⟨ha, hle, hrest⟩ := ih hfind
    set n := advance (headLength area) with hn
    rw [List.length_drop] at hle
    refine ⟨ha, by omega, ?_⟩
    intro rest
    rw [take_behind, List.append_assoc, find_front hn (by omega) (by simpa using hp), hrest, Option.map_some]
  | case4 area hsize =>
    rw [find, if_neg hsize] at h
    cases h

theorem find_append {offset : ℕ} {a : Attribute} (h : find p area = some (offset, a)) (rest : Bytes) :
    find p (area ++ rest) = some (offset, a) := by
  obtain ⟨-, -, hfront⟩ := find_of_front h
  rw [← List.take_append_drop (offset + 4 + a.value.length) area, List.append_assoc]
  exact hfront _

/-- **What `find` has walked over is read.**  The list of an area is that of the front, up to the end of the attribute
that is found, followed by that of the rest. -/
theorem attributes_of_find {offset : ℕ} {a : Attribute} (h : find p area = some (offset, a))
    (hpad : ∀ a, p a = true → 4 ∣ a.value.length) :
    ∃ front, ∀ rest, attributes (area.take (offset + 4 + a.value.length) ++ rest)
      = (attributes rest).map (front ++ ·) := by
  induction area using find.induct p generalizing offset with
  | case1 area hsize hover =>
    rw [find, if_pos hsize, if_pos hover] at h
    cases h
  | case2 area hsize hover hp =>
    rw [find, if_pos hsize, if_neg hover, if_pos hp, Option.some.injEq, Prod.mk.injEq] at h
    obtain ⟨rfl, rfl⟩ := h
    have hvalue : (head area).value.length = headLength area := length_head (by omega)
    have hadvance : advance (headLength area) = 0 + 4 + headLength area := by
      have := hpad _ hp
      rw [hvalue] at this
      rw [advance_of_dvd this]
    rw [hvalue]
    refine ⟨[head area], ?_⟩
    intro rest
    rw [attributes_front hadvance.symm (by omega)]
    rfl
  | case3 area hsize hover hp ih =>
    rw [find, if_pos hsize, if_neg hover, if_neg hp, Option.map_eq_some_iff] at h
    obtain ⟨⟨offset', a'⟩, hfind, heq⟩ := h
    rw [Prod.mk.injEq] at heq
    obtain ⟨rfl, rfl⟩ := heq
    obtain ⟨-, hle, -⟩ := find_of_front hfind
    obtain ⟨front, hfront⟩ := ih hfind
    set n := advance (headLength area) with hn
    rw [List.length_drop] at hle
    refine ⟨head area :: front, ?_⟩
    intro rest
    rw [take_behind, List.append_assoc, attributes_front hn (by omega), hfront rest, Option.map_map]
    rfl
  | case4 area hsize =>
    rw [find, if_neg hsize] at h
    cases h

theorem attributes_split {offset : ℕ} {a : Attribute} (h : find p area = some (offset, a))
    (hpad : ∀ a, p a = true → 4 ∣ a.value.length) :
    ∃ front, attributes (area.take (offset + 4 + a.value.length)) = some front ∧
      attributes area = (attributes (area.drop (offset + 4 + a.value.length))).map (front ++ ·) := by
  obtain ⟨front, hfront⟩ := attributes_of_find h hpad
  have hnil := hfront []
  have hall := hfront (area.drop (offset + 4 + a.value.length))
  rw [List.append_nil, attributes_of_short (show ([] : Bytes).length < 4 by simp), Option.map_some, List.append_nil] at hnil
  rw [List.take_append_drop] at hall
  exact ⟨front, hnil, hall⟩

/-! ### Writing -/

/-- An attribute as bytes, padded with zeros. -/
def Attribute.encode (a : Attribute) : Bytes :=
  storeBE16 a.type ++ storeBE16 (UInt16.ofNat a.value.length) ++ a.value
    ++ List.replicate (advance a.value.length - (4 + a.value.length)) 0

@[simp] theorem Attribute.length_encode (a : Attribute) : a.encode.length = advance a.value.length := by
  have := le_advance a.value.length
  simp only [Attribute.encode, List.length_append, length_storeBE16, List.length_replicate]
  omega

theorem Attribute.dvd_length_encode (a : Attribute) : 4 ∣ a.encode.length := by
  rw [Attribute.length_encode, advance]
  omega

theorem headLength_encode_append {a : Attribute} (h : a.value.length < 2 ^ 16) (rest : Bytes) :
    headLength (a.encode ++ rest) = a.value.length := by
  simp only [Attribute.encode, List.append_assoc]
  rw [headLength, drop_storeBE16 _ 0, List.drop_zero, loadBE16_store, UInt16.toNat_ofNat', Nat.mod_eq_of_lt h]

theorem head_encode_append {a : Attribute} (h : a.value.length < 2 ^ 16) (rest : Bytes) :
    head (a.encode ++ rest) = a := by
  rw [head, headLength_encode_append h]
  simp only [Attribute.encode, List.append_assoc]
  rw [loadBE16_store, drop_storeBE16 _ 2, drop_storeBE16 _ 0, List.drop_zero, List.take_left' rfl]

theorem length_encode_append (a : Attribute) (rest : Bytes) :
    (a.encode ++ rest).length = advance a.value.length + rest.length := by
  rw [List.length_append, Attribute.length_encode]

theorem attributes_encode_append {a : Attribute} (h : a.value.length < 2 ^ 16) (rest : Bytes) :
    attributes (a.encode ++ rest) = (attributes rest).map (a :: ·) := by
  have hle := le_advance a.value.length
  have hsize := length_encode_append a rest
  rw [attributes, if_pos (by omega), headLength_encode_append h, if_neg (by omega), head_encode_append h,
    List.drop_left' (Attribute.length_encode a)]

theorem find_encode_append {a : Attribute} (h : a.value.length < 2 ^ 16) (hp : p a = true) (rest : Bytes) :
    find p (a.encode ++ rest) = some (0, a) := by
  have hle := le_advance a.value.length
  have hsize := length_encode_append a rest
  rw [find, if_pos (by omega), headLength_encode_append h, if_neg (by omega), head_encode_append h, if_pos hp]

theorem find_encode_append_of_not {a : Attribute} (h : a.value.length < 2 ^ 16) (hp : p a = false) (rest : Bytes) :
    find p (a.encode ++ rest) = (find p rest).map fun (offset, b) => (advance a.value.length + offset, b) := by
  have hle := le_advance a.value.length
  have hsize := length_encode_append a rest
  rw [find, if_pos (by omega), headLength_encode_append h, if_neg (by omega), head_encode_append h,
    if_neg (by simp [hp]), List.drop_left' (Attribute.length_encode a)]

/-- **What is written is read**, in front of anything that may follow. -/
theorem attributes_flatMap_encode (as : List Attribute) (h : ∀ a ∈ as, a.value.length < 2 ^ 16) (rest : Bytes) :
    attributes (as.flatMap Attribute.encode ++ rest) = (attributes rest).map (as ++ ·) := by
  induction as with
  | nil => simp
  | cons a as ih =>
    rw [List.flatMap_cons, List.append_assoc, attributes_encode_append (h a (by simp)),
      ih fun b hb => h b (by simp [hb]), Option.map_map]
    rfl

/-- **The first attribute that is looked for is found** at the offset it is written to, whatever follows. -/
theorem find_flatMap_encode {as : List Attribute} {a : Attribute} (h : ∀ b ∈ as, b.value.length < 2 ^ 16)
    (hnone : ∀ b ∈ as, p b = false) (ha : a.value.length < 2 ^ 16) (hp : p a = true) (rest : Bytes) :
    find p (as.flatMap Attribute.encode ++ (a.encode ++ rest)) = some ((as.flatMap Attribute.encode).length, a) := by
  induction as with
  | nil => exact find_encode_append ha hp rest
  | cons b as ih =>
    rw [List.flatMap_cons, List.append_assoc, find_encode_append_of_not (h b (by simp)) (hnone b (by simp)),
      ih (fun c hc => h c (by simp [hc])) (fun c hc => hnone c (by simp [hc])), Option.map_some,
      List.length_append, Attribute.length_encode]

theorem length_value_le {a : Attribute} {as : List Attribute} (h : a ∈ as) :
    a.value.length ≤ (as.flatMap Attribute.encode).length := by
  have hle := le_advance a.value.length
  have hsub := (List.sublist_flatten_of_mem (List.mem_map_of_mem (f := Attribute.encode) h)).length_le
  rw [Attribute.length_encode, ← List.flatMap_def] at hsub
  omega

theorem dvd_length_flatMap_encode (as : List Attribute) : 4 ∣ (as.flatMap Attribute.encode).length := by
  induction as with
  | nil => simp
  | cons a as ih =>
    rw [List.flatMap_cons, List.length_append]
    exact Nat.dvd_add a.dvd_length_encode ih

end VianiumVoip.Lib.Tlv
