import VianiumVoip.Lib.Bytes

/-!
# Definite-length DER

The tag-length-value form of X.690: one tag byte, the length in the short or the long form, the content.
Such values form a prefix code (`tlv_append_inj`): from a byte string that starts with one, the value and the
rest can be told apart.  A structure written as a nest of values is therefore determined field by field.
-/

namespace VianiumVoip.Lib.Der

/-- The bytes of `v`, most significant first, none for zero. -/
def octets (v : ℕ) : Bytes := if v = 0 then [] else octets (v / 256) ++ [UInt8.ofNat v]
termination_by v
decreasing_by omega

theorem ofBE_octets (v : ℕ) : ofBE (octets v) = v := by
  fun_induction octets v with
  | case1 => rfl
  | case2 v hv ih =>
    have hlow : (UInt8.ofNat v).toNat = v % 256 := UInt8.toNat_ofNat'
    rw [ofBE_concat, ih, hlow]
    omega

theorem length_octets_le {v n : ℕ} (h : v < 256 ^ n) : (octets v).length ≤ n := by
  induction n generalizing v with
  | zero =>
    obtain rfl : v = 0 := by simpa using h
    simp [octets]
  | succ n ih =>
    unfold octets
    split_ifs with hv
    · simp
    · have hdiv : v / 256 < 256 ^ n := by
        rw [Nat.div_lt_iff_lt_mul (by omega), ← pow_succ]
        exact h
      rw [List.length_append, List.length_singleton]
      exact Nat.succ_le_succ (ih hdiv)

/-- The length field: one byte below 128, otherwise the count of the length's own bytes and these bytes. -/
def lengthOctets (len : ℕ) : Bytes :=
  if len < 0x80 then [UInt8.ofNat len]
  else UInt8.ofNat (0x80 + (octets len).length) :: octets len

/-- A value: tag, length, content. -/
def tlv (tag : UInt8) (content : Bytes) : Bytes := tag :: (lengthOctets content.length ++ content)

/-- The length field can be told apart from what follows it. -/
theorem lengthOctets_append_inj {m n : ℕ} (hm : m < 256 ^ 8) (hn : n < 256 ^ 8) {r s : Bytes}
    (h : lengthOctets m ++ r = lengthOctets n ++ s) : m = n ∧ r = s := by
  have hlm := length_octets_le hm
  have hln := length_octets_le hn
  -- the first byte tells the two forms, and the widths of the long form, apart
  have hbyte {a b : ℕ} (ha : a < 256) (hb : b < 256) (h : UInt8.ofNat a = UInt8.ofNat b) : a = b := by
    have := congrArg UInt8.toNat h
    rwa [UInt8.toNat_ofNat', UInt8.toNat_ofNat', Nat.mod_eq_of_lt ha, Nat.mod_eq_of_lt hb] at this
  unfold lengthOctets at h
  split_ifs at h with h1 h2 h2
  · obtain ⟨hhead, htail⟩ := List.cons.inj h
    exact ⟨hbyte (by omega) (by omega) hhead, htail⟩
  · have := hbyte (by omega) (by omega) (List.cons.inj h).1
    omega
  · have := hbyte (by omega) (by omega) (List.cons.inj h).1
    omega
  · obtain ⟨hhead, htail⟩ := List.cons.inj h
    have hwidth : (octets m).length = (octets n).length := by
      have := hbyte (by omega) (by omega) hhead
      omega
    obtain ⟨hoct, hrest⟩ := List.append_inj htail hwidth
    refine ⟨?_, hrest⟩
    rw [← ofBE_octets m, hoct, ofBE_octets]

/-- **Values form a prefix code.** -/
theorem tlv_append_inj {t u : UInt8} {b c r s : Bytes} (hb : b.length < 256 ^ 8) (hc : c.length < 256 ^ 8)
    (h : tlv t b ++ r = tlv u c ++ s) : t = u ∧ b = c ∧ r = s := by
  simp only [tlv, List.cons_append, List.append_assoc] at h
  obtain ⟨htag, htail⟩ := List.cons.inj h
  obtain ⟨hlen, hrest⟩ := lengthOctets_append_inj hb hc htail
  obtain ⟨hcontent, htl⟩ := List.append_inj hrest hlen
  exact ⟨htag, hcontent, htl⟩

theorem tlv_inj {t u : UInt8} {b c : Bytes} (hb : b.length < 256 ^ 8) (hc : c.length < 256 ^ 8)
    (h : tlv t b = tlv u c) : t = u ∧ b = c := by
  have := tlv_append_inj (r := []) (s := []) hb hc (by rw [h])
  exact ⟨this.1, this.2.1⟩

theorem length_tlv_le {t : UInt8} {b : Bytes} (hb : b.length < 256 ^ 8) :
    (tlv t b).length ≤ b.length + 10 := by
  have := length_octets_le hb
  unfold tlv lengthOctets
  split_ifs
  · simp
  · simp
    omega

end VianiumVoip.Lib.Der
