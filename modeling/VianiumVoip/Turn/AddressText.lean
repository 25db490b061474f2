import VianiumVoip.Turn.Address

/-!
# Which texts are taken for addresses

A text with a point is scanned as a dotted quad, and that scan takes dotted quads and nothing else (`scanQuad_iff`).
-/

namespace VianiumVoip.Turn

open VianiumVoip.Lib

/-! ### Dotted quads -/

namespace QuadScan

/-- The digits of an octet on top of `acc`. -/
def valueFrom (acc : ℕ) (text : Bytes) : ℕ := text.foldl (fun n c => 10 * n + (c.toNat - 48)) acc

theorem le_valueFrom (acc : ℕ) (text : Bytes) : acc ≤ valueFrom acc text := by
  induction text generalizing acc with
  | nil => exact le_rfl
  | cons c text ih =>
    have := ih (10 * acc + (c.toNat - 48))
    rw [valueFrom, List.foldl_cons]
    change _ ≤ valueFrom _ _
    omega

theorem step_digit {s : QuadScan} {c : UInt8} (hc : isDigit c = true) (h : 10 * s.acc + (c.toNat - 48) ≤ 255) :
    s.step c = some { s with acc := 10 * s.acc + (c.toNat - 48), inDigit := true } := by
  have hacc : s.acc * 10 + (c.toNat - 0x30) = 10 * s.acc + (c.toNat - 48) := by omega
  simp only [step]
  rw [if_pos hc, hacc, if_neg (by omega)]

theorem step_point {s : QuadScan} (hdigit : s.inDigit = true) (hparts : s.parts.length < 4) :
    s.step 0x2E = some { parts := s.parts ++ [s.acc] } := by
  have hpoint : ¬ isDigit 0x2E = true := by decide
  have hin : ¬ s.inDigit = false := by rw [hdigit]; decide
  simp only [step]
  rw [if_neg hpoint, if_true, if_neg hin, if_neg (by omega)]

theorem inDigit_of_point {s s' : QuadScan} (h : s.step 0x2E = some s') : s'.inDigit = false := by
  have hpoint : ¬ isDigit 0x2E = true := by decide
  simp only [step] at h
  rw [if_neg hpoint, if_true] at h
  split_ifs at h
  cases h
  rfl

theorem foldlM_digits {text : Bytes} {s : QuadScan} (htext : ∀ c ∈ text, isDigit c = true) (hne : text ≠ [])
    (hvalue : valueFrom s.acc text ≤ 255) :
    text.foldlM step s = some { s with acc := valueFrom s.acc text, inDigit := true } := by
  induction text generalizing s with
  | nil => exact absurd rfl hne
  | cons c text ih =>
    have hc := htext c List.mem_cons_self
    have hle := le_valueFrom (10 * s.acc + (c.toNat - 48)) text
    have hstep := step_digit (s := s) hc (hle.trans hvalue)
    rw [List.foldlM_cons, hstep, Option.bind_eq_bind, Option.bind_some]
    rcases eq_or_ne text [] with rfl | hrest
    · rfl
    · exact ih (fun c hc => htext c (List.mem_cons_of_mem _ hc)) hrest hvalue

theorem foldlM_octet {text : Bytes} {s : QuadScan} (htext : IsOctet text) (hs : s.acc = 0) (hparts : s.parts.length < 4)
    (rest : Bytes) : (text ++ 0x2E :: rest).foldlM step s
      = rest.foldlM step { parts := s.parts ++ [digitsValue text] } := by
  obtain ⟨hne, hdigits, hvalue⟩ := htext
  have hfrom : valueFrom s.acc text = digitsValue text := by rw [hs]; rfl
  rw [List.foldlM_append, foldlM_digits hdigits hne (hfrom ▸ hvalue), hfrom]
  simp only [Option.bind_eq_bind, Option.bind_some, List.foldlM_cons]
  rw [step_point rfl (by exact hparts), Option.bind_some]

/-- What the loop has read when it ends behind a point: the rest of an octet, and octets behind it. -/
theorem octets_of_foldlM {text : Bytes} {s s' : QuadScan} (h : text.foldlM step s = some s') (hend : s'.inDigit = false) :
    (text = [] ∧ s' = s) ∨
      ∃ (octet : Bytes) (octets : List Bytes), (∀ c ∈ octet, isDigit c = true) ∧ (octet ≠ [] ∨ s.inDigit = true) ∧
        valueFrom s.acc octet ≤ max 255 s.acc ∧ (∀ o ∈ octets, IsOctet o) ∧
        text = octet ++ 0x2E :: octets.flatMap (fun o => o ++ [0x2E]) ∧
        s'.parts = s.parts ++ valueFrom s.acc octet :: octets.map digitsValue := by
  induction text generalizing s with
  | nil =>
    rw [List.foldlM_nil] at h
    exact .inl ⟨rfl, (Option.some.inj h).symm⟩
  | cons c text ih =>
    rw [List.foldlM_cons] at h
    obtain ⟨s₁, hstep, hrest⟩ := Option.bind_eq_some_iff.1 h
    simp only [step] at hstep
    split_ifs at hstep with hdigit hover hpoint hin hparts
    · -- a digit belongs to the octet that is being read
      cases hstep
      refine .inr ?_
      rcases ih hrest with ⟨-, rfl⟩ | ⟨octet, octets, hoctet, -, hvalue, hoctets, htext, hs'⟩
      · cases hend
      have hacc : s.acc * 10 + (c.toNat - 0x30) = 10 * s.acc + (c.toNat - 48) := by omega
      rw [hacc] at hvalue hs' hover
      refine ⟨c :: octet, octets, ?_, .inl (List.cons_ne_nil _ _), ?_, hoctets, ?_, hs'⟩
      · intro d hd
        rcases List.mem_cons.1 hd with rfl | hd
        · exact hdigit
        · exact hoctet d hd
      · change valueFrom (10 * s.acc + (c.toNat - 48)) octet ≤ _
        simp only at hvalue
        omega
      · rw [htext, List.cons_append]
    · -- a point ends it, and behind it the next one begins
      cases hstep
      refine .inr ?_
      rcases ih hrest with ⟨rfl, rfl⟩ | ⟨octet, octets, hoctet, hne, hvalue, hoctets, htext, hs'⟩
      · exact ⟨[], [], by simp, .inr (by simpa using hin), by simp [valueFrom], by simp, by simp [hpoint], by simp [valueFrom]⟩
      · refine ⟨[], octet :: octets, by simp, .inr (by simpa using hin), by simp [valueFrom], ?_, ?_, ?_⟩
        · intro o ho
          rcases List.mem_cons.1 ho with rfl | ho
          · exact ⟨hne.resolve_right Bool.false_ne_true, hoctet, hvalue⟩
          · exact hoctets o ho
        · rw [htext, hpoint]
          simp
        · rw [hs']
          simp [valueFrom, digitsValue]

end QuadScan

/-- **The IPv4 loop takes dotted quads and nothing else.** -/
theorem scanQuad_iff {ip : Bytes} {parts : List ℕ} :
    scanQuad ip = some parts ↔
      ∃ a b c d, IsOctet a ∧ IsOctet b ∧ IsOctet c ∧ IsOctet d ∧ ip = a ++ 0x2E :: (b ++ 0x2E :: (c ++ 0x2E :: d)) ∧
        parts = [a, b, c, d].map digitsValue := by
  constructor
  · intro h
    unfold scanQuad at h
    cases hloop : (ip ++ [0x2E]).foldlM QuadScan.step {} with
    | none =>
      rw [hloop] at h
      cases h
    | some s =>
      rw [hloop] at h
      simp only at h
      split_ifs at h with hcount
      obtain rfl := Option.some.inj h
      have hend : s.inDigit = false := by
        rw [List.foldlM_append] at hloop
        obtain ⟨s₀, -, hlast⟩ := Option.bind_eq_some_iff.1 hloop
        rw [List.foldlM_cons] at hlast
        obtain ⟨s₁, hstep, hs⟩ := Option.bind_eq_some_iff.1 hlast
        cases hs
        exact QuadScan.inDigit_of_point hstep
      rcases QuadScan.octets_of_foldlM hloop hend with ⟨hnil, -⟩ | ⟨a, octets, ha, hne, hvalue, hoctets, htext, hparts⟩
      · exact absurd hnil (by simp)
      have hcount : octets.length = 3 := by
        have hlen := congrArg List.length hparts
        rw [List.length_append, List.length_cons, List.length_map] at hlen
        simp only [List.length_nil] at hlen
        omega
      obtain ⟨b, c, d, rfl⟩ := List.length_eq_three.1 hcount
      refine ⟨a, b, c, d, ⟨hne.resolve_right Bool.false_ne_true, ha, hvalue⟩, hoctets b (by simp), hoctets c (by simp),
        hoctets d (by simp), ?_, hparts⟩
      have hpoint : ip ++ [0x2E] = a ++ 0x2E :: (b ++ 0x2E :: (c ++ 0x2E :: d)) ++ [0x2E] := by
        rw [htext]
        simp
      exact List.append_cancel_right hpoint
  · rintro ⟨a, b, c, d, ha, hb, hc, hd, rfl, rfl⟩
    have htext : a ++ 0x2E :: (b ++ 0x2E :: (c ++ 0x2E :: d)) ++ [0x2E]
        = a ++ 0x2E :: (b ++ 0x2E :: (c ++ 0x2E :: (d ++ 0x2E :: []))) := by simp
    unfold scanQuad
    rw [htext, QuadScan.foldlM_octet ha rfl (by decide), QuadScan.foldlM_octet hb rfl (by simp),
      QuadScan.foldlM_octet hc rfl (by simp), QuadScan.foldlM_octet hd rfl (by simp)]
    rfl

/-! ### What the IPv6 loop takes -/

/-- A group that ends where `text` begins: it has four digits, or no digit comes next. -/
def EndsBefore (group text : Bytes) : Prop := group.length = 4 ∨ ∀ c, text.head? = some c → isHexDigit c = false

/-- The text begins with these groups, each with a colon in front or without one, and goes on with `rest`. -/
inductive LooseGroups : (groups : List Bytes) → (text rest : Bytes) → Prop
  | done (rest : Bytes) : LooseGroups [] rest rest
  | group {g : Bytes} {gs : List Bytes} {text rest : Bytes} (hg : IsGroup g) (hend : EndsBefore g text)
      (hrest : LooseGroups gs text rest) : LooseGroups (g :: gs) (g ++ text) rest
  | colon {g : Bytes} {gs : List Bytes} {text rest : Bytes} (hg : IsGroup g) (hend : EndsBefore g text)
      (hrest : LooseGroups gs text rest) : LooseGroups (g :: gs) (0x3A :: (g ++ text)) rest

/-- The end of the text, or a byte that is neither digit nor colon, with a colon in front or without one. -/
def Stops (rest : Bytes) : Prop :=
  ∀ c, (if rest.head? = some 0x3A then rest.tail else rest).head? = some c → isHexDigit c = false ∧ c ≠ 0x3A

/-- **What the IPv6 loop takes for an address**, and the groups that it finds: eight groups and anything behind them, or
one double colon with at most eight groups around it, where the last group, if it is not the eighth one, may be followed
by anything that does not go on with a digit or a double colon.  Between groups there may be no colon, and behind the
double colon one more. -/
def IsLooseIpv6 (text : Bytes) (groups : List ℕ) : Prop :=
  (∃ gs rest, gs.length = 8 ∧ LooseGroups gs text rest ∧ groups = gs.map hexValue) ∨
    ∃ front back middle rest, front.length < 8 ∧ front.length + back.length ≤ 8 ∧
      LooseGroups front text (0x3A :: 0x3A :: middle) ∧ LooseGroups back middle rest ∧
      (front.length + back.length = 8 ∨ Stops rest) ∧
      groups = front.map hexValue ++ List.replicate (8 - (front.length + back.length)) 0 ++ back.map hexValue

namespace GroupScan

/-- The variables behind these groups. -/
def behind (values : List ℕ) (dblColon : Option ℕ) : GroupScan :=
  { groups := values ++ List.replicate (8 - values.length) 0, gIdx := values.length, dblColon := dblColon }

variable {values : List ℕ} {dblColon : Option ℕ} {text rest : Bytes} {g : Bytes} {gs : List Bytes}

theorem behind_nil : ({} : GroupScan) = behind [] none := rfl

theorem behind_set (h : values.length < 8) (g : ℕ) :
    { behind values dblColon with
      groups := (behind values dblColon).groups.set (behind values dblColon).gIdx g
      gIdx := (behind values dblColon).gIdx + 1 } = behind (values ++ [g]) dblColon := by
  have hzeros : List.replicate (8 - values.length) 0 = 0 :: List.replicate (8 - (values.length + 1)) 0 := by
    rw [show 8 - values.length = 8 - (values.length + 1) + 1 by omega, List.replicate_succ]
  simp only [behind, hzeros, List.length_append, List.length_singleton, List.append_assoc, List.singleton_append]
  rw [List.set_append_right _ _ le_rfl, Nat.sub_self, List.set_cons_zero]

/-! One group. -/

/-- The digits of a group on top of `v`. -/
def valueFrom (v : ℕ) (digits : Bytes) : ℕ := digits.foldl (fun n c => 16 * n + (hexDigit? c).getD 0) v

theorem shift_or {v d : ℕ} (h : d < 16) : v <<< 4 ||| d = 16 * v + d := by
  rw [← Nat.shiftLeft_add_eq_or_of_lt (i := 4) h, Nat.shiftLeft_eq]
  omega

theorem scanGroup_spec (left v n : ℕ) (ip : Bytes) :
    ∃ g rest, ip = g ++ rest ∧ g.length ≤ left ∧ (∀ c ∈ g, isHexDigit c = true) ∧
      (g.length = left ∨ ∀ c, rest.head? = some c → isHexDigit c = false) ∧
      scanGroup left v n ip = (valueFrom v g, n + g.length, rest) := by
  fun_induction scanGroup left v n ip with
  | case1 left v n ch ip hv hhex ih =>
    obtain ⟨g, rest, rfl, hlen, hg, hend, hscan⟩ := ih
    refine ⟨ch :: g, rest, rfl, Nat.succ_le_succ hlen, ?_, ?_, ?_⟩
    · intro c hc
      rcases List.mem_cons.1 hc with rfl | hc
      · rw [isHexDigit, hhex, Option.isSome_some]
      · exact hg c hc
    · rcases hend with hend | hend
      · exact .inl (congrArg Nat.succ hend)
      · exact .inr hend
    · rw [hscan, shift_or (hexDigit?_lt hhex), List.length_cons, valueFrom, valueFrom, List.foldl_cons, hhex,
        Option.getD_some]
      simp only [Nat.add_assoc, Nat.add_comm 1]
  | case2 left v n ch ip hnone =>
    refine ⟨[], ch :: ip, rfl, Nat.zero_le _, by simp, .inr ?_, rfl⟩
    intro c hc
    rw [List.head?_cons, Option.some.injEq] at hc
    rw [← hc, isHexDigit, hnone, Option.isSome_none]
  | case3 left v n ip hnot =>
    refine ⟨[], ip, rfl, Nat.zero_le _, by simp, ?_, rfl⟩
    cases left with
    | zero => exact .inl rfl
    | succ left =>
      cases ip with
      | nil => exact .inr (by simp)
      | cons c ip => exact absurd rfl (hnot left c ip rfl)

/-- A text falls into a group and the rest in one way. -/
theorem scanGroup_of_group (hg : IsGroup g) (hend : EndsBefore g text) :
    scanGroup 4 0 0 (g ++ text) = (hexValue g, g.length, text) := by
  obtain ⟨g', rest, happend, hlen, hg', hend', hscan⟩ := scanGroup_spec 4 0 0 (g ++ text)
  obtain ⟨hne, hle, hhex⟩ := hg
  have hsame : g = g' ∧ text = rest := by
    rcases List.append_eq_append_iff.1 happend with ⟨more, rfl, rfl⟩ | ⟨more, rfl, rfl⟩
    · -- the loop has not read more
      cases more with
      | nil => simp
      | cons c more =>
        rcases hend with hend | hend
        · rw [List.length_append, List.length_cons] at hlen
          omega
        · have := hend c rfl
          rw [hg' c (by simp)] at this
          cases this
    · -- and not less
      cases more with
      | nil => simp
      | cons c more =>
        rcases hend' with hend' | hend'
        · rw [List.length_append, List.length_cons] at hle
          omega
        · have := hend' c rfl
          rw [hhex c (by simp)] at this
          cases this
  obtain ⟨rfl, rfl⟩ := hsame
  rw [hscan, Nat.zero_add]
  rfl

theorem ne_colon_of_isHexDigit {c : UInt8} (h : isHexDigit c = true) : c ≠ 0x3A := by
  rintro rfl
  exact absurd h (by decide)

theorem scanGroups_group (hg : IsGroup g) (hend : EndsBefore g text) (h : values.length < 8) :
    scanGroups (behind values dblColon) (g ++ text) = scanGroups (behind (values ++ [hexValue g]) dblColon) text := by
  have hscan := scanGroup_of_group hg hend
  obtain ⟨hne, -, hhex⟩ := hg
  obtain ⟨c, g, rfl⟩ := List.exists_cons_of_ne_nil hne
  have hc := ne_colon_of_isHexDigit (hhex c List.mem_cons_self)
  rw [List.cons_append] at hscan ⊢
  rw [scanGroups]
  simp only [hscan]
  rw [if_neg (by exact Nat.not_le.2 h), if_neg hc, if_neg (by simp), behind_set h]

theorem scanGroups_colon (hhead : text.head? ≠ some 0x3A) (h : values.length < 8) :
    scanGroups (behind values dblColon) (0x3A :: text) = scanGroups (behind values dblColon) text := by
  rw [scanGroups]
  rw [if_neg (by exact Nat.not_le.2 h), if_pos rfl, if_neg hhead]

theorem head?_append_of_isGroup (hg : IsGroup g) (text : Bytes) : (g ++ text).head? ≠ some 0x3A := by
  obtain ⟨hne, -, hhex⟩ := hg
  obtain ⟨c, g, rfl⟩ := List.exists_cons_of_ne_nil hne
  rw [List.cons_append, List.head?_cons, ne_eq, Option.some.injEq]
  exact ne_colon_of_isHexDigit (hhex c List.mem_cons_self)

/-- **The loop goes over loose groups**, up to eight of them. -/
theorem scanGroups_looseGroups (h : LooseGroups gs text rest) (hlen : values.length + gs.length ≤ 8) :
    scanGroups (behind values dblColon) text = scanGroups (behind (values ++ gs.map hexValue) dblColon) rest := by
  induction h generalizing values with
  | done rest => rw [List.map_nil, List.append_nil]
  | group hg hend _ ih =>
    rw [List.length_cons] at hlen
    rw [scanGroups_group hg hend (by omega), ih (by rw [List.length_append, List.length_singleton]; omega),
      List.append_assoc, List.singleton_append, List.map_cons]
  | colon hg hend _ ih =>
    rw [List.length_cons] at hlen
    rw [scanGroups_colon (head?_append_of_isGroup hg _) (by omega), scanGroups_group hg hend (by omega),
      ih (by rw [List.length_append, List.length_singleton]; omega), List.append_assoc, List.singleton_append,
      List.map_cons]

/-- A byte that is neither digit nor colon ends the loop, and so does the end of the text. -/
theorem scanGroups_end (h : ∀ c, rest.head? = some c → isHexDigit c = false ∧ c ≠ 0x3A) :
    scanGroups (behind values dblColon) rest = some (behind values dblColon) := by
  cases rest with
  | nil => rw [scanGroups]
  | cons c rest =>
    obtain ⟨hhex, hcolon⟩ := h c rfl
    have hnone : hexDigit? c = none := Option.not_isSome_iff_eq_none.1 (by rw [← isHexDigit, hhex]; decide)
    have hscan : (scanGroup 4 0 0 (c :: rest)).2.1 = 0 := by simp [scanGroup, hnone]
    rw [scanGroups, if_neg hcolon]
    simp only [hscan]
    rw [if_true, ite_self]

/-- **The loop stops** behind the eighth group, and where it finds neither a group nor a double colon. -/
theorem scanGroups_stops (h : values.length = 8 ∨ Stops rest) :
    scanGroups (behind values dblColon) rest = some (behind values dblColon) := by
  rcases Nat.lt_or_ge values.length 8 with hlt | hge
  · have hstops := h.resolve_left (by omega)
    unfold Stops at hstops
    by_cases hcolon : rest.head? = some 0x3A
    · rw [if_pos hcolon] at hstops
      obtain ⟨rest, rfl⟩ := List.head?_eq_some_iff.1 hcolon
      rw [List.tail_cons] at hstops
      rw [scanGroups_colon (fun hhead => (hstops _ hhead).2 rfl) hlt, scanGroups_end hstops]
    · rw [if_neg hcolon] at hstops
      exact scanGroups_end hstops
  · cases rest with
    | nil => rw [scanGroups]
    | cons c rest => rw [scanGroups, if_pos (by exact hge)]

theorem group_of_scanGroup {c : UInt8} (h : (scanGroup 4 0 0 (c :: text)).2.1 ≠ 0) :
    ∃ g rest, c :: text = g ++ rest ∧ IsGroup g ∧ EndsBefore g rest ∧
      scanGroup 4 0 0 (c :: text) = (hexValue g, g.length, rest) := by
  obtain ⟨g, rest, happend, hlen, hhex, hend, hscan⟩ := scanGroup_spec 4 0 0 (c :: text)
  rw [hscan] at h
  refine ⟨g, rest, happend, ⟨?_, hlen, hhex⟩, hend, by rw [hscan, Nat.zero_add]; rfl⟩
  rintro rfl
  exact h rfl

theorem not_isHexDigit_of_scanGroup {c : UInt8} (h : (scanGroup 4 0 0 (c :: text)).2.1 = 0) : isHexDigit c = false := by
  obtain ⟨g, rest, happend, -, -, hend, hscan⟩ := scanGroup_spec 4 0 0 (c :: text)
  rw [hscan, Nat.zero_add, List.length_eq_zero_iff] at h
  obtain rfl := h
  rw [List.nil_append] at happend
  subst happend
  exact hend.resolve_left (by decide) c rfl

/-- What a round of the loop does on its way to `s`. -/
inductive Round (values : List ℕ) (dblColon : Option ℕ) (text : Bytes) (s : GroupScan) : Prop
  | stop (hs : s = behind values dblColon)
      (hend : 8 ≤ values.length ∨ ∀ c, text.head? = some c → isHexDigit c = false ∧ c ≠ 0x3A)
  | double (middle : Bytes) (hlt : values.length < 8) (hnone : dblColon = none) (htext : text = 0x3A :: 0x3A :: middle)
      (hscan : scanGroups (behind values (some values.length)) middle = some s)
  | colon (rest : Bytes) (hlt : values.length < 8) (htext : text = 0x3A :: rest) (hhead : rest.head? ≠ some 0x3A)
      (hscan : scanGroups (behind values dblColon) rest = some s)
  | group (g rest : Bytes) (hlt : values.length < 8) (htext : text = g ++ rest) (hg : IsGroup g) (hend : EndsBefore g rest)
      (hscan : scanGroups (behind (values ++ [hexValue g]) dblColon) rest = some s)

theorem round_of_scanGroups {s : GroupScan} (h : scanGroups (behind values dblColon) text = some s) :
    Round values dblColon text s := by
  cases text with
  | nil =>
    rw [scanGroups] at h
    exact .stop (by simpa using h.symm) (.inr (by simp))
  | cons c text =>
    rw [scanGroups] at h
    split_ifs at h with hfull hcolon hdouble hsome
    · exact .stop (by simpa using h.symm) (.inl hfull)
    · obtain ⟨middle, rfl⟩ := List.head?_eq_some_iff.1 hdouble
      have hnone : dblColon = none := Option.not_isSome_iff_eq_none.1 hsome
      subst hcolon hnone
      exact .double middle (Nat.lt_of_not_le hfull) rfl rfl h
    · subst hcolon
      exact .colon text (Nat.lt_of_not_le hfull) rfl hdouble h
    have hlt : values.length < 8 := Nat.lt_of_not_le hfull
    by_cases hnone : (scanGroup 4 0 0 (c :: text)).2.1 = 0
    · simp only [hnone, if_true] at h
      refine .stop (by simpa using h.symm) (.inr fun x hx => ?_)
      cases hx
      exact ⟨not_isHexDigit_of_scanGroup hnone, hcolon⟩
    · obtain ⟨g, rest, happend, hg, hend, hscan⟩ := group_of_scanGroup hnone
      simp only [hnone, if_false] at h
      rw [hscan, behind_set hlt] at h
      exact .group g rest hlt happend hg hend h

theorem looseGroups_colon (h : LooseGroups gs text rest) (hhead : text.head? ≠ some 0x3A) :
    LooseGroups gs (0x3A :: text) (if gs = [] then 0x3A :: text else rest) := by
  cases h with
  | done => exact .done _
  | group hg hend hrest => exact .colon hg hend hrest
  | colon => exact absurd rfl hhead

theorem stops_colon (h : Stops rest) (hhead : rest.head? ≠ some 0x3A) : Stops (0x3A :: rest) := by
  unfold Stops at h ⊢
  rw [if_neg hhead] at h
  rw [List.head?_cons, if_pos rfl, List.tail_cons]
  exact h

theorem stops_of_end (h : ∀ c, rest.head? = some c → isHexDigit c = false ∧ c ≠ 0x3A) : Stops rest := by
  have hcolon : rest.head? ≠ some 0x3A := fun hhead => (h _ hhead).2 rfl
  unfold Stops
  rw [if_neg hcolon]
  exact h

/-- What the loop has gone over behind a double colon. -/
theorem looseGroups_of_scanGroups {d : ℕ} {s : GroupScan} (h : scanGroups (behind values (some d)) text = some s)
    (hlen : values.length ≤ 8) :
    ∃ gs rest, LooseGroups gs text rest ∧ values.length + gs.length ≤ 8 ∧
      (values.length + gs.length = 8 ∨ Stops rest) ∧ s = behind (values ++ gs.map hexValue) (some d) := by
  induction hn : text.length using Nat.strong_induction_on generalizing text values with
  | _ n ih =>
    cases round_of_scanGroups h with
    | stop hs hend =>
      refine ⟨[], text, .done _, hlen, ?_, by simpa using hs⟩
      exact hend.imp (Nat.le_antisymm hlen) stops_of_end
    | double middle hlt hnone => cases hnone
    | colon rest hlt htext hhead hscan =>
      subst htext
      rw [List.length_cons] at hn
      obtain ⟨gs, rest', hgs, hcount, hend, hs⟩ := ih _ (by omega) hscan hlen rfl
      refine ⟨gs, _, looseGroups_colon hgs hhead, hcount, ?_, hs⟩
      by_cases hnil : gs = []
      · subst hnil
        cases hgs
        rw [if_pos rfl]
        exact .inr (stops_colon (hend.resolve_left (by simp; omega)) hhead)
      · rw [if_neg hnil]
        exact hend
    | group g rest hlt htext hg hgend hscan =>
      subst htext
      have hpos := List.length_pos_iff.2 hg.1
      rw [List.length_append] at hn
      obtain ⟨gs, rest', hgs, hcount, hend, hs⟩ := ih rest.length (by omega) hscan (by simp; omega) rfl
      rw [List.length_append, List.length_singleton] at hcount hend
      refine ⟨g :: gs, rest', .group hg hgend hgs, ?_, ?_, ?_⟩
      · rw [List.length_cons]
        omega
      · rw [List.length_cons, Nat.add_comm gs.length, ← Nat.add_assoc]
        exact hend
      · rw [hs, List.append_assoc, List.singleton_append, List.map_cons]

theorem loose_of_scanGroups {s : GroupScan} (h : scanGroups (behind values none) text = some s)
    (hlen : values.length ≤ 8) :
    (∃ gs rest, LooseGroups gs text rest ∧ values.length + gs.length ≤ 8 ∧
        s = behind (values ++ gs.map hexValue) none) ∨
      ∃ front back middle rest, LooseGroups front text (0x3A :: 0x3A :: middle) ∧ LooseGroups back middle rest ∧
        values.length + front.length < 8 ∧ values.length + front.length + back.length ≤ 8 ∧
        (values.length + front.length + back.length = 8 ∨ Stops rest) ∧
        s = behind (values ++ front.map hexValue ++ back.map hexValue) (some (values.length + front.length)) := by
  induction hn : text.length using Nat.strong_induction_on generalizing text values with
  | _ n ih =>
    cases round_of_scanGroups h with
    | stop hs hend => exact .inl ⟨[], text, .done _, hlen, by simpa using hs⟩
    | double middle hlt hnone htext hscan =>
      subst htext
      obtain ⟨back, rest, hback, hcount, hend, hs⟩ := looseGroups_of_scanGroups hscan hlen
      exact .inr ⟨[], back, middle, rest, .done _, hback, hlt, hcount, hend, by simpa using hs⟩
    | colon rest hlt htext hhead hscan =>
      subst htext
      rw [List.length_cons] at hn
      rcases ih _ (by omega) hscan hlen rfl with ⟨gs, rest', hgs, hcount, hs⟩ |
        ⟨front, back, middle, rest', hfront, hall⟩
      · exact .inl ⟨gs, _, looseGroups_colon hgs hhead, hcount, hs⟩
      · have hne : front ≠ [] := by
          rintro rfl
          cases hfront
          exact hhead rfl
        have hcolon := looseGroups_colon hfront hhead
        rw [if_neg hne] at hcolon
        exact .inr ⟨front, back, middle, rest', hcolon, hall⟩
    | group g rest hlt htext hg hgend hscan =>
      subst htext
      have hpos := List.length_pos_iff.2 hg.1
      rw [List.length_append] at hn
      have hcount : (values ++ [hexValue g]).length = values.length + 1 := by simp
      rcases ih rest.length (by omega) hscan (by exact hcount.trans_le hlt) rfl with ⟨gs, rest', hgs, hle, hs⟩ |
        ⟨front, back, middle, rest', hfront, hback, hlt', hle, hend, hs⟩
      · rw [hcount] at hle
        refine .inl ⟨g :: gs, rest', .group hg hgend hgs, ?_, ?_⟩
        · rw [List.length_cons]
          omega
        · rw [hs, List.append_assoc, List.singleton_append, List.map_cons]
      · rw [hcount] at hlt' hle hend hs
        refine .inr ⟨g :: front, back, middle, rest', .group hg hgend hfront, hback, ?_, ?_, ?_, ?_⟩
        · rw [List.length_cons]
          omega
        · rw [List.length_cons]
          omega
        · rw [List.length_cons, Nat.add_comm front.length, ← Nat.add_assoc]
          exact hend
        · rw [hs, List.length_cons, Nat.add_comm front.length, ← Nat.add_assoc]
          simp

end GroupScan

/-! ### The shift -/

theorem length_foldl_set {α : Type} (js : List α) (index value : List ℕ → α → ℕ) (groups : List ℕ) :
    (js.foldl (fun groups j => groups.set (index groups j) (value groups j)) groups).length = groups.length := by
  induction js generalizing groups with
  | nil => rfl
  | cons j js ih => rw [List.foldl_cons, ih, List.length_set]

theorem getD_shift (groups : List ℕ) (d z t i : ℕ) (hlen : d + z + t ≤ groups.length) :
    ((List.range t).reverse.foldl (fun groups j => groups.set (d + z + j) (groups.getD (d + j) 0)) groups).getD i 0
      = if d + z ≤ i ∧ i < d + z + t then groups.getD (i - z) 0 else groups.getD i 0 := by
  induction t generalizing groups with
  | zero => rw [if_neg (by omega)]; rfl
  | succ t ih =>
    rw [List.range_succ, List.reverse_append, List.reverse_singleton, List.singleton_append, List.foldl_cons,
      ih _ (by rw [List.length_set]; omega)]
    simp only [List.getD_eq_getElem?_getD, List.getElem?_set]
    by_cases hi : d + z ≤ i ∧ i < d + z + t
    · have hother : ¬ d + z + t = i - z := by omega
      have hmore : d + z ≤ i ∧ i < d + z + (t + 1) := by omega
      rw [if_pos hi, if_neg hother, if_pos hmore]
    · rw [if_neg hi]
      by_cases hlast : d + z + t = i
      · have hin : d + z + t < groups.length := by omega
        have hmore : d + z ≤ i ∧ i < d + z + (t + 1) := by omega
        rw [if_pos hlast, if_pos hin, if_pos hmore, ← hlast, Option.getD_some, show d + z + t - z = d + t by omega]
      · have hmore : ¬ (d + z ≤ i ∧ i < d + z + (t + 1)) := by omega
        rw [if_neg hlast, if_neg hmore]

theorem getD_zeros (groups : List ℕ) (d z i : ℕ) (hlen : d + z ≤ groups.length) :
    ((List.range z).foldl (fun groups j => groups.set (d + j) 0) groups).getD i 0
      = if d ≤ i ∧ i < d + z then 0 else groups.getD i 0 := by
  induction z with
  | zero => rw [if_neg (by omega)]; rfl
  | succ z ih =>
    have hlength : ((List.range z).foldl (fun groups j => groups.set (d + j) 0) groups).length = groups.length :=
      length_foldl_set _ (fun _ j => d + j) (fun _ _ => 0) groups
    have ih := ih (by omega)
    rw [List.range_succ, List.foldl_append, List.foldl_cons, List.foldl_nil]
    rw [List.getD_eq_getElem?_getD, List.getElem?_set, hlength]
    by_cases hlast : d + z = i
    · rw [if_pos hlast, if_pos (by omega), if_pos (by omega), Option.getD_some]
    · rw [if_neg hlast, ← List.getD_eq_getElem?_getD, ih]
      by_cases hi : d ≤ i ∧ i < d + z
      · rw [if_pos hi, if_pos (by omega)]
      · rw [if_neg hi, if_neg (by omega)]

/-- **The shift makes room for the zeros.** -/
theorem expandZeros_eq (front back : List ℕ) (z : ℕ) :
    expandZeros (front ++ back ++ List.replicate z 0) front.length back.length z
      = front ++ List.replicate z 0 ++ back := by
  have hlength : (expandZeros (front ++ back ++ List.replicate z 0) front.length back.length z).length
      = (front ++ List.replicate z 0 ++ back).length := by
    unfold expandZeros
    rw [length_foldl_set _ (fun _ j => front.length + j) (fun _ _ => 0),
      length_foldl_set _ (fun _ j => front.length + z + j) (fun groups j => groups.getD (front.length + j) 0)]
    simp only [List.length_append, List.length_replicate]
    omega
  apply List.ext_getElem hlength
  intro i hi hi'
  rw [← List.getD_eq_getElem _ 0 hi, ← List.getD_eq_getElem _ 0 hi']
  have hsize : front.length + z + back.length ≤ (front ++ back ++ List.replicate z 0).length := by
    simp only [List.length_append, List.length_replicate]
    omega
  simp only [List.length_append, List.length_replicate] at hi'
  unfold expandZeros
  rw [getD_zeros _ _ _ _ (by
    rw [length_foldl_set _ (fun _ j => front.length + z + j) (fun groups j => groups.getD (front.length + j) 0)]
    omega), getD_shift _ _ _ _ _ hsize]
  rcases Nat.lt_or_ge i front.length with hfront | hfront
  · rw [if_neg (by omega), if_neg (by omega), List.append_assoc, List.append_assoc, List.getD_append _ _ _ _ hfront,
      List.getD_append _ _ _ _ hfront]
  rcases Nat.lt_or_ge i (front.length + z) with hzero | hzero
  · rw [if_pos ⟨hfront, hzero⟩, List.append_assoc, List.getD_append_right _ _ _ _ hfront,
      List.getD_append _ _ _ _ (by rw [List.length_replicate]; omega), List.getD_replicate _ (by omega)]
  · rw [if_neg (by omega), if_pos (by omega), List.append_assoc, List.append_assoc,
      List.getD_append_right _ _ _ _ (by omega), List.getD_append_right _ _ _ _ hfront,
      List.getD_append _ _ _ _ (by omega), List.getD_append_right _ _ _ _ (by rw [List.length_replicate]; omega),
      List.length_replicate]
    congr 1
    omega

/-- **The IPv6 scan takes loose texts and nothing else.** -/
theorem scanIpv6_iff {ip : Bytes} {groups : List ℕ} : scanIpv6 ip = some groups ↔ IsLooseIpv6 ip groups := by
  constructor
  · intro h
    unfold scanIpv6 at h
    cases hloop : scanGroups {} ip with
    | none =>
      rw [hloop] at h
      cases h
    | some s =>
      rw [hloop] at h
      rw [GroupScan.behind_nil] at hloop
      rcases GroupScan.loose_of_scanGroups hloop (Nat.zero_le _) with ⟨gs, rest, hgs, -, rfl⟩ |
        ⟨front, back, middle, rest, hfront, hback, hlt, hle, hend, rfl⟩
      · simp only [GroupScan.behind, List.nil_append, List.length_map] at h
        split_ifs at h with hcount
        have hcount : gs.length = 8 := not_not.1 hcount
        rw [hcount, List.replicate_zero, List.append_nil] at h
        exact .inl ⟨gs, rest, hcount, hgs, (Option.some.inj h).symm⟩
      · simp only [List.length_nil, Nat.zero_add] at hlt hle hend
        have hshift := expandZeros_eq (front.map hexValue) (back.map hexValue) (8 - (front.length + back.length))
        simp only [List.length_map] at hshift
        simp only [GroupScan.behind, List.nil_append, List.length_append, List.length_map, List.length_nil,
          Nat.zero_add] at h
        rw [if_neg (by omega), Nat.add_sub_cancel_left, hshift] at h
        exact .inr ⟨front, back, middle, rest, hlt, hle, hfront, hback, hend, (Option.some.inj h).symm⟩
  · rintro (⟨gs, rest, hcount, hgs, rfl⟩ | ⟨front, back, middle, rest, hlt, hle, hfront, hback, hend, rfl⟩)
    · unfold scanIpv6
      rw [GroupScan.behind_nil, GroupScan.scanGroups_looseGroups hgs (by rw [hcount]; decide),
        GroupScan.scanGroups_stops (.inl (by rw [List.nil_append, List.length_map, hcount]))]
      simp [GroupScan.behind, hcount]
    · have hdouble : scanGroups (GroupScan.behind (front.map hexValue) none) (0x3A :: 0x3A :: middle)
          = scanGroups (GroupScan.behind (front.map hexValue) (some front.length)) middle := by
        rw [scanGroups, if_neg (by simpa [GroupScan.behind] using hlt), if_pos rfl]
        simp [GroupScan.behind]
      have hshift := expandZeros_eq (front.map hexValue) (back.map hexValue) (8 - (front.length + back.length))
      simp only [List.length_map] at hshift
      unfold scanIpv6
      rw [GroupScan.behind_nil, GroupScan.scanGroups_looseGroups hfront (by simp; omega), List.nil_append, hdouble,
        GroupScan.scanGroups_looseGroups hback (by simpa using hle),
        GroupScan.scanGroups_stops (by simpa using hend)]
      simp only [GroupScan.behind, List.length_append, List.length_map]
      rw [if_neg (by omega), Nat.add_sub_cancel_left, hshift]

/-! ### Address texts are loose texts -/

theorem looseGroups_colonJoin {gs : List Bytes} {rest : Bytes} (hgs : ∀ g ∈ gs, IsGroup g) (hne : gs ≠ [])
    (hrest : ∀ c, rest.head? = some c → isHexDigit c = false) :
    LooseGroups gs (colonJoin gs ++ rest) rest ∧ LooseGroups gs (0x3A :: (colonJoin gs ++ rest)) rest := by
  induction gs with
  | nil => exact absurd rfl hne
  | cons g gs ih =>
    have hg := hgs g List.mem_cons_self
    cases gs with
    | nil =>
      have hjoin : colonJoin [g] = g := by simp [colonJoin]
      rw [hjoin]
      exact ⟨.group hg (.inr hrest) (.done rest), .colon hg (.inr hrest) (.done rest)⟩
    | cons g' gs =>
      have hjoin : colonJoin (g :: g' :: gs) ++ rest = g ++ 0x3A :: (colonJoin (g' :: gs) ++ rest) := by
        simp [colonJoin, List.intercalate, List.intersperse]
      obtain ⟨-, hcolon⟩ := ih (fun x hx => hgs x (List.mem_cons_of_mem _ hx)) (List.cons_ne_nil _ _)
      have hend : EndsBefore g (0x3A :: (colonJoin (g' :: gs) ++ rest)) := by
        refine .inr fun c hc => ?_
        cases hc
        decide
      rw [hjoin]
      exact ⟨.group hg hend hcolon, .colon hg hend hcolon⟩

theorem looseGroups_join {gs : List Bytes} {rest : Bytes} (hgs : ∀ g ∈ gs, IsGroup g)
    (hrest : ∀ c, rest.head? = some c → isHexDigit c = false) : LooseGroups gs (colonJoin gs ++ rest) rest := by
  rcases eq_or_ne gs [] with rfl | hne
  · exact .done rest
  · exact (looseGroups_colonJoin hgs hne hrest).1

theorem flatMap_groupBytes_zeros (n : ℕ) : (List.replicate n 0).flatMap groupBytes = List.replicate (2 * n) 0 := by
  induction n with
  | zero => rfl
  | succ n ih =>
    rw [List.replicate_succ, List.flatMap_cons, ih, show 2 * (n + 1) = 2 * n + 1 + 1 by omega, List.replicate_succ,
      List.replicate_succ]
    rfl

/-- **An IPv6 text is loose**, and denotes the groups that the loop finds. -/
theorem isLooseIpv6_of_isIpv6Text {text address : Bytes} (h : IsIpv6Text text address) :
    ∃ groups, IsLooseIpv6 text groups ∧ address = groups.flatMap groupBytes := by
  rcases h with ⟨gs, hcount, hgs, rfl, rfl⟩ | ⟨front, back, hlt, hfront, hback, rfl, rfl⟩
  · refine ⟨gs.map hexValue, .inl ⟨gs, [], hcount, ?_, rfl⟩, by rw [List.flatMap_map]; rfl⟩
    have hloose : LooseGroups gs (colonJoin gs ++ []) [] := looseGroups_join hgs (by simp)
    rwa [List.append_nil] at hloose
  · refine ⟨_, .inr ⟨front, back, colonJoin back, [], by omega, hlt.le, ?_, ?_, .inr (by simp [Stops]), rfl⟩, ?_⟩
    · rw [List.append_assoc]
      refine looseGroups_join hfront fun c hc => ?_
      cases hc
      decide
    · have hloose : LooseGroups back (colonJoin back ++ []) [] := looseGroups_join hback (by simp)
      rwa [List.append_nil] at hloose
    · rw [List.flatMap_append, List.flatMap_append, flatMap_groupBytes_zeros, List.flatMap_map, List.flatMap_map]
      rfl

theorem mem_colonJoin {gs : List Bytes} {c : UInt8} (h : c ∈ colonJoin gs) : c = 0x3A ∨ ∃ g ∈ gs, c ∈ g := by
  induction gs with
  | nil => simp [colonJoin] at h
  | cons g gs ih =>
    cases gs with
    | nil => exact .inr ⟨g, by simp, by simpa [colonJoin] using h⟩
    | cons g' gs =>
      have hjoin : colonJoin (g :: g' :: gs) = g ++ 0x3A :: colonJoin (g' :: gs) := by
        simp [colonJoin, List.intercalate, List.intersperse]
      rw [hjoin, List.mem_append, List.mem_cons] at h
      rcases h with h | h | h
      · exact .inr ⟨g, List.mem_cons_self, h⟩
      · exact .inl h
      · rcases ih h with h | ⟨x, hx, hc⟩
        · exact .inl h
        · exact .inr ⟨x, List.mem_cons_of_mem _ hx, hc⟩

/-- An IPv6 text has digits and colons only. -/
theorem isHexDigit_of_mem {text address : Bytes} {c : UInt8} (h : IsIpv6Text text address) (hc : c ∈ text) :
    c = 0x3A ∨ isHexDigit c = true := by
  have hjoin : ∀ gs : List Bytes, (∀ g ∈ gs, IsGroup g) → c ∈ colonJoin gs → c = 0x3A ∨ isHexDigit c = true := by
    intro gs hgs hmem
    rcases mem_colonJoin hmem with hcolon | ⟨g, hg, hmem⟩
    · exact .inl hcolon
    · exact .inr ((hgs g hg).2.2 c hmem)
  rcases h with ⟨gs, -, hgs, rfl, -⟩ | ⟨front, back, -, hfront, hback, rfl, -⟩
  · exact hjoin gs hgs hc
  · rw [List.mem_append, List.mem_append] at hc
    rcases hc with (hc | hc) | hc
    · exact hjoin front hfront hc
    · exact .inl (by simpa using hc)
    · exact hjoin back hback hc

theorem point_not_mem {text address : Bytes} (h : IsIpv6Text text address) : (0x2E : UInt8) ∉ text := by
  intro hmem
  rcases isHexDigit_of_mem h hmem with hcolon | hhex
  · exact absurd hcolon (by decide)
  · exact absurd hhex (by decide)

end VianiumVoip.Turn
