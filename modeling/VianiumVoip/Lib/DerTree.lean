import VianiumVoip.Lib.Der

/-!
# DER elements as trees

An element is a primitive one, whose content is bytes, or a constructed one, whose content is elements.  `encode` is the
definite-length form with the shortest length fields, `decode` the reader of byte strings: it takes identifiers of one
byte, the constructed bit for what tells the two kinds apart, and a length field in no other form than the shortest.

* `decode_sound` : what the reader accepts is the encoding of what it returns;
* `decode_encodeAll` : it accepts the encoding of every list of well-tagged elements, and returns these elements.
-/

namespace VianiumVoip.Lib.Der

/-! ### Length fields -/

/-- The length field in front of `b` and what is behind it.  `0x80` is the indefinite form, `0xFF` is reserved. -/
def readLength : Bytes → Option (ℕ × Bytes)
  | [] => none
  | x :: b =>
    if x.toNat < 0x80 then some (x.toNat, b)
    else
      let n := x.toNat - 0x80
      let len := ofBE (b.take n)
      if 0 < n ∧ n < 0x7F ∧ n ≤ b.length ∧ b.head? ≠ some 0 ∧ 0x80 ≤ len then some (len, b.drop n) else none

theorem octets_of_pos {v : ℕ} (h : 0 < v) : octets v = octets (v / 256) ++ [UInt8.ofNat v] := by
  rw [octets, if_neg (by omega)]

theorem octets_head {v : ℕ} (h : 0 < v) (r : Bytes) : (octets v ++ r).head? ≠ some 0 := by
  fun_induction octets v generalizing r with
  | case1 => omega
  | case2 v hv ih =>
    by_cases hlow : 256 ≤ v
    · rw [List.append_assoc]
      exact ih (by omega) _
    · have hzero : v / 256 = 0 := by omega
      rw [hzero, octets, if_pos rfl]
      intro h0
      have hv' := congrArg UInt8.toNat (Option.some.inj h0)
      rw [UInt8.toNat_ofNat', UInt8.toNat_zero] at hv'
      omega

theorem octets_ofBE {b : Bytes} (hne : b ≠ []) (h : b.head? ≠ some 0) : octets (ofBE b) = b := by
  induction b using List.reverseRecOn with
  | nil => exact absurd rfl hne
  | append_singleton b x ih =>
    have hx := x.toNat_lt
    rw [ofBE_concat]
    have hdiv : (256 * ofBE b + x.toNat) / 256 = ofBE b := by omega
    have hlow : UInt8.ofNat (256 * ofBE b + x.toNat) = x := by
      apply UInt8.toNat_inj.1
      rw [UInt8.toNat_ofNat']
      omega
    rcases b with _ | ⟨y, r⟩
    · have hx0 : x.toNat ≠ 0 := by
        intro h0
        exact h (congrArg some (UInt8.toNat_inj.1 h0))
      rw [octets_of_pos (by omega), hdiv, hlow, ofBE_nil, octets, if_pos rfl]
    · have hoct := ih (List.cons_ne_nil _ _) h
      have hpos : 0 < ofBE (y :: r) := by
        rcases Nat.eq_zero_or_pos (ofBE (y :: r)) with h0 | hpos
        · rw [h0, octets, if_pos rfl] at hoct
          exact absurd hoct.symm (List.cons_ne_nil _ _)
        · exact hpos
      rw [octets_of_pos (by omega), hdiv, hlow, hoct]

theorem readLength_append {len : ℕ} (h : len < 256 ^ 8) (rest : Bytes) :
    readLength (lengthOctets len ++ rest) = some (len, rest) := by
  have hle := length_octets_le h
  unfold lengthOctets
  split_ifs with hshort
  · have hbyte : (UInt8.ofNat len).toNat = len := by
      rw [UInt8.toNat_ofNat']
      omega
    simp only [List.cons_append, List.nil_append, readLength, hbyte, hshort, if_true]
  · have hbyte : (UInt8.ofNat (0x80 + (octets len).length)).toNat = 0x80 + (octets len).length := by
      rw [UInt8.toNat_ofNat']
      omega
    have hpos : 0 < (octets len).length := by
      rw [octets_of_pos (by omega), List.length_append, List.length_singleton]
      omega
    have hhead := octets_head (v := len) (by omega) rest
    rw [List.cons_append, readLength, hbyte, if_neg (by omega)]
    simp only [Nat.add_sub_cancel_left, List.take_left, List.drop_left, ofBE_octets]
    rw [if_pos ⟨hpos, by omega, by simp, hhead, by omega⟩]

theorem readLength_sound {b rest : Bytes} {len : ℕ} (h : readLength b = some (len, rest)) :
    b = lengthOctets len ++ rest := by
  rcases b with _ | ⟨x, b⟩
  · cases h
  · have hx := x.toNat_lt
    simp only [readLength] at h
    by_cases hshort : x.toNat < 0x80
    · rw [if_pos hshort, Option.some.injEq, Prod.mk.injEq] at h
      obtain ⟨rfl, rfl⟩ := h
      rw [lengthOctets, if_pos hshort, UInt8.ofNat_toNat]
      rfl
    · rw [if_neg hshort, Option.ite_none_right_eq_some, Option.some.injEq, Prod.mk.injEq] at h
      obtain ⟨⟨hn, -, hle, hhead, hmin⟩, rfl, rfl⟩ := h
      obtain ⟨n, hsum⟩ : ∃ n, x.toNat = 0x80 + n := ⟨x.toNat - 0x80, by omega⟩
      rw [hsum, Nat.add_sub_cancel_left] at hn hle hmin ⊢
      have hlen : (b.take n).length = n := by rw [List.length_take, min_eq_left hle]
      have hne : b.take n ≠ [] := by
        intro h0
        rw [h0, List.length_nil] at hlen
        omega
      have hfirst : (b.take n).head? ≠ some 0 := by rwa [List.head?_take, if_neg (by omega)]
      have hbyte : UInt8.ofNat (0x80 + n) = x := by rw [← hsum, UInt8.ofNat_toNat]
      rw [lengthOctets, if_neg (by omega), octets_ofBE hne hfirst, hlen, hbyte, List.cons_append,
        List.take_append_drop]

/-! ### Elements -/

inductive Tree where
  | primitive (tag : UInt8) (content : Bytes)
  | constructed (tag : UInt8) (children : List Tree)

mutual
def Tree.encode : Tree → Bytes
  | .primitive tag content => tlv tag content
  | .constructed tag children => tlv tag (encodeAll children)
def encodeAll : List Tree → Bytes
  | [] => []
  | t :: ts => t.encode ++ encodeAll ts
end

/-- An identifier of one byte: the tag number is below 31. -/
def oneByte (tag : UInt8) : Bool := tag &&& 0x1F ≠ 0x1F

/-- Bit 6 of the identifier. -/
def isConstructed (tag : UInt8) : Bool := tag &&& 0x20 ≠ 0

mutual
/-- The identifiers are those of the kinds of elements that they stand in front of. -/
def Tree.WellTagged : Tree → Prop
  | .primitive tag _ => oneByte tag = true ∧ isConstructed tag = false
  | .constructed tag children => oneByte tag = true ∧ isConstructed tag = true ∧ AllWellTagged children
def AllWellTagged : List Tree → Prop
  | [] => True
  | t :: ts => t.WellTagged ∧ AllWellTagged ts
end

@[simp] theorem encode_primitive (tag : UInt8) (content : Bytes) :
    (Tree.primitive tag content).encode = tlv tag content := by rw [Tree.encode]

@[simp] theorem encode_constructed (tag : UInt8) (children : List Tree) :
    (Tree.constructed tag children).encode = tlv tag (encodeAll children) := by rw [Tree.encode]

@[simp] theorem encodeAll_nil : encodeAll [] = [] := by rw [encodeAll]

@[simp] theorem encodeAll_cons (t : Tree) (ts : List Tree) : encodeAll (t :: ts) = t.encode ++ encodeAll ts := by
  rw [encodeAll]

@[simp] theorem encodeAll_append (ts us : List Tree) : encodeAll (ts ++ us) = encodeAll ts ++ encodeAll us := by
  induction ts with
  | nil => simp
  | cons t ts ih => simp [ih, List.append_assoc]

theorem allWellTagged_append {ts us : List Tree} (hts : AllWellTagged ts) (hus : AllWellTagged us) :
    AllWellTagged (ts ++ us) := by
  induction ts with
  | nil => exact hus
  | cons t ts ih =>
    rw [AllWellTagged] at hts
    rw [List.cons_append, AllWellTagged]
    exact ⟨hts.1, ih hts.2⟩

/-! The contents and ten bytes for each element are enough for the encoding. -/

mutual
def Tree.weight : Tree → ℕ
  | .primitive _ content => content.length + 10
  | .constructed _ children => weightAll children + 10
def weightAll : List Tree → ℕ
  | [] => 0
  | t :: ts => t.weight + weightAll ts
end

mutual
theorem Tree.length_encode_le : (t : Tree) → t.weight < 256 ^ 8 → t.encode.length ≤ t.weight
  | .primitive tag content, h => by
    rw [Tree.weight] at h ⊢
    rw [encode_primitive]
    exact length_tlv_le (by omega)
  | .constructed tag children, h => by
    rw [Tree.weight] at h ⊢
    have hchildren := length_encodeAll_le children (by omega)
    have htlv := length_tlv_le (t := tag) (b := encodeAll children) (by omega)
    rw [encode_constructed]
    omega
theorem length_encodeAll_le : (ts : List Tree) → weightAll ts < 256 ^ 8 → (encodeAll ts).length ≤ weightAll ts
  | [], _ => by simp
  | t :: ts, h => by
    rw [weightAll] at h ⊢
    have ht := t.length_encode_le (by omega)
    have hts := length_encodeAll_le ts (by omega)
    rw [encodeAll_cons, List.length_append]
    omega
end

/-! ### The reader -/

mutual
/-- The element in front of `b` and what is behind it.  `fuel` bounds the recursion. -/
def decodeOne : ℕ → Bytes → Option (Tree × Bytes)
  | 0, _ => none
  | _ + 1, [] => none
  | fuel + 1, tag :: b =>
    if oneByte tag then
      (readLength b).bind fun (len, b) =>
        if len ≤ b.length then
          if isConstructed tag then
            (decodeMany fuel (b.take len)).map fun children => (.constructed tag children, b.drop len)
          else some (.primitive tag (b.take len), b.drop len)
        else none
    else none
/-- The elements of which `b` consists. -/
def decodeMany : ℕ → Bytes → Option (List Tree)
  | 0, _ => none
  | _ + 1, [] => some []
  | fuel + 1, x :: b =>
    (decodeOne fuel (x :: b)).bind fun (t, rest) => (decodeMany fuel rest).map fun ts => t :: ts
end

/-- The elements of which `b` consists.  An element has two bytes or more, so that the fuel is enough for every byte
string. -/
def decode (b : Bytes) : Option (List Tree) := decodeMany (2 * b.length + 1) b

theorem two_le_length_tlv (tag : UInt8) (content : Bytes) : content.length + 2 ≤ (tlv tag content).length := by
  have hpos : 0 < (lengthOctets content.length).length := by
    unfold lengthOctets
    split_ifs <;> simp
  rw [tlv, List.length_cons, List.length_append]
  omega

theorem two_le_length_encode (t : Tree) : 2 ≤ t.encode.length := by
  cases t with
  | primitive tag content =>
    have := two_le_length_tlv tag content
    rw [encode_primitive]
    omega
  | constructed tag children =>
    have := two_le_length_tlv tag (encodeAll children)
    rw [encode_constructed]
    omega

theorem decodeOne_tlv {tag : UInt8} {content : Bytes} (htag : oneByte tag = true) (hlen : content.length < 256 ^ 8)
    (fuel : ℕ) (rest : Bytes) :
    decodeOne (fuel + 1) (tlv tag content ++ rest)
      = if isConstructed tag then (decodeMany fuel content).map fun children => (.constructed tag children, rest)
        else some (.primitive tag content, rest) := by
  rw [tlv, List.cons_append, List.append_assoc, decodeOne, if_pos htag, readLength_append hlen]
  simp only [Option.bind_some, List.length_append, Nat.le_add_right, if_true, List.take_left, List.drop_left]

/-- **The encoding is read back**, by induction on the fuel, elements and lists of elements together. -/
theorem decodeMany_encodeAll (fuel : ℕ) :
    (∀ (t : Tree) (rest : Bytes), t.WellTagged → t.encode.length < 256 ^ 8 → 2 * t.encode.length ≤ fuel →
      decodeOne fuel (t.encode ++ rest) = some (t, rest)) ∧
    (∀ ts : List Tree, AllWellTagged ts → (encodeAll ts).length < 256 ^ 8 → 2 * (encodeAll ts).length < fuel →
      decodeMany fuel (encodeAll ts) = some ts) := by
  induction fuel with
  | zero =>
    refine ⟨fun t rest _ _ hfuel => ?_, fun ts _ _ hfuel => absurd hfuel (Nat.not_lt_zero _)⟩
    have := two_le_length_encode t
    omega
  | succ fuel ih =>
    refine ⟨fun t rest htag hlen hfuel => ?_, fun ts htag hlen hfuel => ?_⟩
    · cases t with
      | primitive tag content =>
        rw [Tree.WellTagged] at htag
        rw [encode_primitive] at hlen hfuel ⊢
        have hcontent := two_le_length_tlv tag content
        rw [decodeOne_tlv htag.1 (by omega), htag.2]
        rfl
      | constructed tag children =>
        rw [Tree.WellTagged] at htag
        rw [encode_constructed] at hlen hfuel ⊢
        have hcontent := two_le_length_tlv tag (encodeAll children)
        rw [decodeOne_tlv htag.1 (by omega), if_pos htag.2.1, ih.2 children htag.2.2 (by omega) (by omega)]
        rfl
    · cases ts with
      | nil =>
        rw [encodeAll_nil, decodeMany]
      | cons t ts =>
        rw [AllWellTagged] at htag
        rw [encodeAll_cons, List.length_append] at hlen hfuel
        have hone := two_le_length_encode t
        have hfirst := ih.1 t (encodeAll ts) htag.1 (by omega) (by omega)
        rcases hbytes : t.encode ++ encodeAll ts with _ | ⟨x, b⟩
        · have := congrArg List.length hbytes
          rw [List.length_append, List.length_nil] at this
          omega
        · rw [encodeAll_cons, hbytes, decodeMany, ← hbytes, hfirst]
          show (decodeMany fuel (encodeAll ts)).map (fun ts => t :: ts) = some (t :: ts)
          rw [ih.2 ts htag.2 (by omega) (by omega)]
          rfl

theorem decode_encodeAll {ts : List Tree} (htag : AllWellTagged ts) (hlen : (encodeAll ts).length < 256 ^ 8) :
    decode (encodeAll ts) = some ts :=
  (decodeMany_encodeAll _).2 ts htag hlen (Nat.lt_succ_self _)

/-- What the reader accepts is the encoding of what it returns, by induction on the fuel. -/
theorem decodeMany_sound (fuel : ℕ) :
    (∀ (b : Bytes) (t : Tree) (rest : Bytes), decodeOne fuel b = some (t, rest) → b = t.encode ++ rest ∧ t.WellTagged) ∧
    (∀ (b : Bytes) (ts : List Tree), decodeMany fuel b = some ts → b = encodeAll ts ∧ AllWellTagged ts) := by
  induction fuel with
  | zero => exact ⟨fun b t rest h => by simp [decodeOne] at h, fun b ts h => by simp [decodeMany] at h⟩
  | succ fuel ih =>
    refine ⟨fun b t rest h => ?_, fun b ts h => ?_⟩
    · rcases b with _ | ⟨tag, b⟩
      · simp [decodeOne] at h
      · rw [decodeOne, Option.ite_none_right_eq_some, Option.bind_eq_some_iff] at h
        obtain ⟨htag, ⟨len, body⟩, hread, h⟩ := h
        rw [readLength_sound hread]
        simp only [Option.ite_none_right_eq_some] at h
        obtain ⟨hle, h⟩ := h
        have htake : (body.take len).length = len := by rw [List.length_take, min_eq_left hle]
        split_ifs at h with hcons
        · obtain ⟨children, hmany, hpair⟩ := Option.map_eq_some_iff.1 h
          obtain ⟨rfl, rfl⟩ := Prod.mk.inj hpair
          obtain ⟨hbytes, hwell⟩ := ih.2 _ _ hmany
          rw [encode_constructed, ← hbytes, Tree.WellTagged, tlv, htake, List.cons_append, List.append_assoc,
            List.take_append_drop]
          exact ⟨rfl, htag, hcons, hwell⟩
        · obtain ⟨rfl, rfl⟩ := Prod.mk.inj (Option.some.inj h)
          rw [encode_primitive, Tree.WellTagged, tlv, htake, List.cons_append, List.append_assoc,
            List.take_append_drop]
          exact ⟨rfl, htag, Bool.not_eq_true _ ▸ hcons⟩
    · rcases b with _ | ⟨x, b⟩
      · rw [decodeMany, Option.some.injEq] at h
        subst h
        rw [encodeAll_nil, AllWellTagged]
        exact ⟨rfl, trivial⟩
      · rw [decodeMany, Option.bind_eq_some_iff] at h
        obtain ⟨⟨t, rest⟩, hone, h⟩ := h
        obtain ⟨ts', hmany, rfl⟩ := Option.map_eq_some_iff.1 h
        obtain ⟨hbytes, hwell⟩ := ih.1 _ _ _ hone
        obtain ⟨hrest, hwells⟩ := ih.2 _ _ hmany
        rw [hbytes, encodeAll_cons, ← hrest, AllWellTagged]
        exact ⟨rfl, hwell, hwells⟩

theorem decode_sound {b : Bytes} {ts : List Tree} (h : decode b = some ts) : b = encodeAll ts ∧ AllWellTagged ts :=
  (decodeMany_sound _).2 b ts h

end VianiumVoip.Lib.Der
