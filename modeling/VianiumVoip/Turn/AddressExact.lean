import VianiumVoip.Turn.AddressText

/-!
# Addresses and their texts

`MakeAddress` compared with the address texts (`makeAddress_exact`).  On texts with a point the two agree.  On others
`MakeAddress` takes every loose text, among them those with a colon too few or too many, with `::` beside eight groups and
with anything behind the last group; on texts that are loose and not addresses, and on no others, it is wrong.

What `FormatAddress` writes is read back.
-/

namespace VianiumVoip.Turn

open VianiumVoip.Lib

variable {ip address : Bytes} {port : ℤ}

theorem address_of_point (h : 0x2E ∈ ip) :
    (makeAddress ip port).address = ((scanQuad ip).map fun parts => parts.map UInt8.ofNat).getD [] := by
  have hne : ip ≠ [] := List.ne_nil_of_mem h
  unfold makeAddress
  simp only
  rw [if_neg hne, if_pos h]
  cases scanQuad ip <;> rfl

theorem address_of_not_point (h : 0x2E ∉ ip) :
    (makeAddress ip port).address = ((scanIpv6 ip).map fun groups => groups.flatMap groupBytes).getD [] := by
  unfold makeAddress
  simp only
  by_cases hnil : ip = []
  · subst hnil
    rw [if_pos rfl, scanIpv6, scanGroups]
    rfl
  · rw [if_neg hnil, if_neg h]
    cases scanIpv6 ip <;> rfl

/-- A text and a port for which `MakeAddress` does what it is for: there is an address exactly when the text is one, and
it is the one that the text denotes. -/
def Exact (ip : Bytes) (port : ℤ) : Prop :=
  ((makeAddress ip port).address ≠ [] ↔ ∃ address, IsAddressText ip address) ∧
    ∀ address, IsAddressText ip address → (makeAddress ip port).address = address

theorem exact_of_find {find : Option Bytes} (hfind : (makeAddress ip port).address = find.getD [])
    (hiff : ∀ address, find = some address ↔ IsAddressText ip address) (hne : ∀ address, find = some address → address ≠ []) :
    Exact ip port := by
  cases hcase : find with
  | none =>
    rw [hcase] at hfind hiff
    refine ⟨⟨fun h => absurd hfind h, ?_⟩, ?_⟩
    · rintro ⟨address, htext⟩
      cases (hiff address).2 htext
    · intro address htext
      cases (hiff address).2 htext
  | some found =>
    rw [hcase] at hfind hiff
    rw [Option.getD_some] at hfind
    refine ⟨⟨fun _ => ⟨found, (hiff found).1 rfl⟩, fun _ => hfind ▸ hne found hcase⟩, ?_⟩
    intro address htext
    rw [hfind, Option.some.inj ((hiff address).2 htext)]

/-- **Dotted quads.**  A text with a point is taken exactly when it is a dotted quad. -/
theorem exact_of_point (h : 0x2E ∈ ip) : Exact ip port := by
  refine exact_of_find (address_of_point h) ?_ ?_
  · intro address
    constructor
    · intro hsome
      obtain ⟨parts, hparts, rfl⟩ := Option.map_eq_some_iff.1 hsome
      obtain ⟨a, b, c, d, ha, hb, hc, hd, rfl, rfl⟩ := scanQuad_iff.1 hparts
      exact .inl ⟨a, b, c, d, ha, hb, hc, hd, rfl, rfl⟩
    · rintro (⟨a, b, c, d, ha, hb, hc, hd, rfl, rfl⟩ | hipv6)
      · rw [scanQuad_iff.2 ⟨a, b, c, d, ha, hb, hc, hd, rfl, rfl⟩]
        rfl
      · exact absurd h (point_not_mem hipv6)
  · intro address hsome
    obtain ⟨parts, hparts, rfl⟩ := Option.map_eq_some_iff.1 hsome
    obtain ⟨a, b, c, d, -, -, -, -, -, rfl⟩ := scanQuad_iff.1 hparts
    exact List.cons_ne_nil _ _

theorem isAddressText_iff_of_not_point (h : 0x2E ∉ ip) : IsAddressText ip address ↔ IsIpv6Text ip address := by
  refine ⟨fun htext => htext.resolve_left ?_, .inr⟩
  rintro ⟨a, b, c, d, -, -, -, -, rfl, -⟩
  exact h (by simp)

/-- Loose texts have eight groups. -/
theorem length_of_isLooseIpv6 {groups : List ℕ} (h : IsLooseIpv6 ip groups) : groups.length = 8 := by
  rcases h with ⟨gs, rest, hcount, -, rfl⟩ | ⟨front, back, middle, rest, -, hle, -, -, -, rfl⟩
  · rw [List.length_map, hcount]
  · simp only [List.length_append, List.length_map, List.length_replicate]
    omega

theorem address_ne_nil_iff (h : 0x2E ∉ ip) :
    (makeAddress ip port).address ≠ [] ↔ ∃ groups, IsLooseIpv6 ip groups := by
  rw [address_of_not_point h]
  cases hscan : scanIpv6 ip with
  | none =>
    refine ⟨fun hne => absurd rfl hne, ?_⟩
    rintro ⟨groups, hloose⟩
    rw [scanIpv6_iff.2 hloose] at hscan
    cases hscan
  | some groups =>
    have hloose := scanIpv6_iff.1 hscan
    refine ⟨fun _ => ⟨groups, hloose⟩, fun _ hnil => ?_⟩
    have hlen := length_of_isLooseIpv6 hloose
    rw [Option.map_some, Option.getD_some, List.flatMap_eq_nil_iff] at hnil
    obtain ⟨g, groups, rfl⟩ := List.exists_cons_of_length_pos (by omega : 0 < groups.length)
    exact absurd (hnil g List.mem_cons_self) (List.cons_ne_nil _ _)

/-- **Groups.**  On a text without a point `MakeAddress` is right unless the text is loose and no address. -/
theorem exact_iff_of_not_point (h : 0x2E ∉ ip) :
    Exact ip port ↔ ((∃ groups, IsLooseIpv6 ip groups) → ∃ address, IsIpv6Text ip address) := by
  have htext : ∀ address, IsIpv6Text ip address → (makeAddress ip port).address = address := by
    intro address hipv6
    obtain ⟨groups, hloose, rfl⟩ := isLooseIpv6_of_isIpv6Text hipv6
    rw [address_of_not_point h, scanIpv6_iff.2 hloose]
    rfl
  unfold Exact
  simp only [isAddressText_iff_of_not_point h]
  rw [address_ne_nil_iff h]
  constructor
  · intro hexact
    exact hexact.1.1
  · intro himp
    refine ⟨⟨himp, ?_⟩, htext⟩
    rintro ⟨address, hipv6⟩
    obtain ⟨groups, hloose, -⟩ := isLooseIpv6_of_isIpv6Text hipv6
    exact ⟨groups, hloose⟩

/-! ### Formatted addresses -/

/-- An address with a known family and as many bytes as it has. -/
def WellFormed (a : TurnAddress) : Prop :=
  a.family = kFamilyIPv4 ∧ a.address.length = 4 ∨ a.family = kFamilyIPv6 ∧ a.address.length = 16

/-- The part of a formatted address in front of the port: what stands between brackets, or in front of the colon. -/
def addressPart (text : Bytes) : Bytes :=
  if text.head? = some 0x5B then text.tail.takeWhile (· ≠ 0x5D) else text.takeWhile (· ≠ 0x3A)

theorem isOctet_decimal (x : UInt8) : IsOctet (decimal x.toNat) := by
  refine ⟨decimal_ne_nil _, fun c hc => isDigit_of_mem_decimal hc, ?_⟩
  rw [digitsValue_decimal]
  have := x.toNat_lt
  omega

theorem groupAt_lt (bytes : Bytes) (i : ℕ) : groupAt bytes i < 16 ^ 4 := by
  have hhigh := (bytes.getD (2 * i) 0).toNat_lt
  have hlow := (bytes.getD (2 * i + 1) 0).toNat_lt
  unfold groupAt
  omega

theorem isGroup_hexadecimal (bytes : Bytes) (i : ℕ) : IsGroup (hexadecimal (groupAt bytes i)) :=
  ⟨hexadecimal_ne_nil _, length_hexadecimal (by decide) (groupAt_lt bytes i), fun _ hc => isHexDigit_of_mem_hexadecimal hc⟩

theorem groupBytes_groupAt (bytes : Bytes) (i : ℕ) :
    groupBytes (groupAt bytes i) = [bytes.getD (2 * i) 0, bytes.getD (2 * i + 1) 0] := by
  have hhigh := (bytes.getD (2 * i) 0).toNat_lt
  have hlow := (bytes.getD (2 * i + 1) 0).toNat_lt
  have hdiv : (groupAt bytes i >>> 8) &&& 0xFF = (bytes.getD (2 * i) 0).toNat := by
    rw [Nat.shiftRight_eq_div_pow, show (0xFF : ℕ) = 2 ^ 8 - 1 by decide, Nat.and_two_pow_sub_one_eq_mod]
    unfold groupAt
    omega
  have hmod : groupAt bytes i &&& 0xFF = (bytes.getD (2 * i + 1) 0).toNat := by
    rw [show (0xFF : ℕ) = 2 ^ 8 - 1 by decide, Nat.and_two_pow_sub_one_eq_mod]
    unfold groupAt
    omega
  rw [groupBytes, hdiv, hmod, UInt8.ofNat_toNat, UInt8.ofNat_toNat]

theorem takeWhile_append_cons {text rest : Bytes} {c : UInt8} (h : c ∉ text) :
    (text ++ c :: rest).takeWhile (· ≠ c) = text := by
  rw [List.takeWhile_append_of_pos, List.takeWhile_cons_of_neg (by simp), List.append_nil]
  intro x hx
  rw [decide_eq_true_eq]
  rintro rfl
  exact h hx

theorem not_mem_decimal {c : UInt8} (hc : isDigit c = false) (n : ℕ) : c ∉ decimal n := by
  intro hmem
  rw [isDigit_of_mem_decimal hmem] at hc
  cases hc

theorem addressPart_ipv4 (port : UInt16) (a b c d : UInt8) :
    addressPart (formatAddress { family := kFamilyIPv4, port := port, address := [a, b, c, d] })
      = decimal a.toNat ++ 0x2E :: (decimal b.toNat ++ 0x2E :: (decimal c.toNat ++ 0x2E :: decimal d.toNat)) := by
  have htext : formatAddress { family := kFamilyIPv4, port := port, address := [a, b, c, d] }
      = (decimal a.toNat ++ 0x2E :: (decimal b.toNat ++ 0x2E :: (decimal c.toNat ++ 0x2E :: decimal d.toNat)))
        ++ 0x3A :: decimal port.toNat := by
    simp [formatAddress]
  have hhead : (formatAddress { family := kFamilyIPv4, port := port, address := [a, b, c, d] }).head? ≠ some 0x5B := by
    obtain ⟨x, digits, hdigits⟩ := List.exists_cons_of_ne_nil (decimal_ne_nil a.toNat)
    rw [htext, hdigits]
    simp only [List.cons_append, List.head?_cons, ne_eq, Option.some.injEq]
    rintro rfl
    exact not_mem_decimal (by decide) a.toNat (hdigits ▸ List.mem_cons_self)
  have hcolon : ∀ n, (0x3A : UInt8) ∉ decimal n := not_mem_decimal (by decide)
  rw [addressPart, if_neg hhead, htext]
  exact takeWhile_append_cons (by simp [hcolon])

theorem addressPart_ipv6 (port : UInt16) {address : Bytes} (hlen : address.length = 16) :
    addressPart (formatAddress { family := kFamilyIPv6, port := port, address := address })
      = colonJoin ((List.range 8).map fun i => hexadecimal (groupAt address i)) := by
  have htext : formatAddress { family := kFamilyIPv6, port := port, address := address }
      = 0x5B :: (colonJoin ((List.range 8).map fun i => hexadecimal (groupAt address i))
          ++ 0x5D :: 0x3A :: decimal port.toNat) := by
    have hfamily : ¬ (kFamilyIPv6 = kFamilyIPv4 ∧ address.length = 4) := by
      rintro ⟨hsame, -⟩
      exact absurd hsame (by decide)
    rw [formatAddress, if_neg hfamily, if_pos ⟨rfl, hlen⟩]
    simp [colonJoin, List.range_succ, List.intercalate, List.intersperse]
  have hbracket : (0x5D : UInt8) ∉ colonJoin ((List.range 8).map fun i => hexadecimal (groupAt address i)) := by
    intro hmem
    rcases mem_colonJoin hmem with hcolon | ⟨g, hg, hmem⟩
    · exact absurd hcolon (by decide)
    · obtain ⟨i, -, rfl⟩ := List.mem_map.1 hg
      exact absurd (isHexDigit_of_mem_hexadecimal hmem) (by decide)
  rw [addressPart, htext, List.head?_cons, if_pos rfl, List.tail_cons]
  exact takeWhile_append_cons hbracket

theorem flatMap_groupBytes_groupAt {address : Bytes} {n : ℕ} (hlen : 2 * n ≤ address.length) :
    (List.range n).flatMap (fun i => groupBytes (groupAt address i)) = address.take (2 * n) := by
  induction n with
  | zero => rfl
  | succ n ih =>
    have hhigh : address.getD (2 * n) 0 = address[2 * n] := List.getD_eq_getElem _ _ _
    have hlow : address.getD (2 * n + 1) 0 = address[2 * n + 1] := List.getD_eq_getElem _ _ _
    rw [List.range_succ, List.flatMap_append, ih (by omega), List.flatMap_singleton, groupBytes_groupAt, hhigh, hlow,
      show 2 * (n + 1) = 2 * n + 1 + 1 by omega, List.take_succ_eq_append_getElem (by omega),
      List.take_succ_eq_append_getElem (by omega), List.append_assoc, List.singleton_append]

/-- **What `FormatAddress` writes is read back.** -/
theorem makeAddress_formatAddress {a : TurnAddress} (h : WellFormed a) (port : ℤ) :
    (makeAddress (addressPart (formatAddress a)) port).address = a.address := by
  obtain ⟨family, portOf, address⟩ := a
  rcases h with ⟨hfamily, hlen⟩ | ⟨hfamily, hlen⟩
  · obtain rfl : family = kFamilyIPv4 := hfamily
    obtain ⟨a, b, c, d, rfl⟩ := List.length_eq_four.1 hlen
    rw [addressPart_ipv4]
    refine (exact_of_point (by simp)).2 _ (.inl ?_)
    exact ⟨_, _, _, _, isOctet_decimal a, isOctet_decimal b, isOctet_decimal c, isOctet_decimal d, rfl, by simp⟩
  · obtain rfl : family = kFamilyIPv6 := hfamily
    rw [addressPart_ipv6 portOf hlen]
    have htext : IsIpv6Text (colonJoin ((List.range 8).map fun i => hexadecimal (groupAt address i))) address := by
      refine .inl ⟨_, by simp, ?_, rfl, ?_⟩
      · intro g hg
        obtain ⟨i, -, rfl⟩ := List.mem_map.1 hg
        exact isGroup_hexadecimal address i
      · simp only [addressOf, List.flatMap_map, hexValue_hexadecimal]
        have htake : address.take 16 = address := List.take_of_length_le hlen.le
        rw [flatMap_groupBytes_groupAt hlen.ge, htake]
    exact ((exact_iff_of_not_point (point_not_mem htext)).2 fun _ => ⟨_, htext⟩).2 _ (.inr htext)

/-- **When `MakeAddress` is exact.** -/
theorem makeAddress_exact (ip : Bytes) (port : ℤ) :
    (Exact ip port ↔ 0x2E ∈ ip ∨ ((∃ groups, IsLooseIpv6 ip groups) → ∃ address, IsIpv6Text ip address)) ∧
      ∀ a, WellFormed a → (makeAddress (addressPart (formatAddress a)) port).address = a.address := by
  refine ⟨?_, fun a ha => makeAddress_formatAddress ha port⟩
  by_cases h : 0x2E ∈ ip
  · exact ⟨fun _ => .inl h, fun _ => exact_of_point h⟩
  · rw [exact_iff_of_not_point h]
    exact ⟨.inr, fun hor => hor.resolve_left h⟩

/-- A loopback address with a port. -/
theorem makeAddress_exact_loopback :
    WellFormed { family := kFamilyIPv4, port := 3478, address := [127, 0, 0, 1] } ∧ Exact (ascii "127.0.0.1") 3478 ∧
      (makeAddress (addressPart (formatAddress { family := kFamilyIPv4, port := 3478, address := [127, 0, 0, 1] })) 3478).address
        = [127, 0, 0, 1] :=
  ⟨.inl ⟨rfl, rfl⟩, (makeAddress_exact (ascii "127.0.0.1") 3478).1.2 (.inl (by decide)),
    (makeAddress_exact (ascii "127.0.0.1") 3478).2 _ (.inl ⟨rfl, rfl⟩)⟩

/-- **A zone is passed over.**  A link-local text with a zone behind it is no address, and is taken for one. -/
theorem zone_taken :
    (makeAddress (ascii "fe80::1%wlan0") 80).address ≠ [] ∧ ¬ ∃ address, IsAddressText (ascii "fe80::1%wlan0") address := by
  have hpoint : (0x2E : UInt8) ∉ ascii "fe80::1%wlan0" := by decide
  have hfront : IsGroup (ascii "fe80") := ⟨by decide, by decide, List.all_eq_true.1 (by decide)⟩
  have hback : IsGroup (ascii "1") := ⟨by decide, by decide, List.all_eq_true.1 (by decide)⟩
  have hend : EndsBefore (ascii "1") (ascii "%wlan0") := by
    refine .inr fun c hc => ?_
    cases hc
    decide
  have hstops : Stops (ascii "%wlan0") := by
    intro c hc
    cases hc
    decide
  constructor
  · rw [address_ne_nil_iff hpoint]
    exact ⟨_, .inr ⟨[ascii "fe80"], [ascii "1"], ascii "1%wlan0", ascii "%wlan0", by decide, by decide,
      .group hfront (.inl rfl) (.done _), .group hback hend (.done _), .inr hstops, rfl⟩⟩
  · rintro ⟨address, htext⟩
    rcases isHexDigit_of_mem ((isAddressText_iff_of_not_point hpoint).1 htext) (c := 0x25) (by decide) with h | h
    · exact absurd h (by decide)
    · exact absurd h (by decide)

end VianiumVoip.Turn
