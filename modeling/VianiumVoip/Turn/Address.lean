import VianiumVoip.Lib.Decimal
import VianiumVoip.Lib.Hexadecimal
import VianiumVoip.Turn.Message

/-!
# Addresses as text

`MakeAddress` and `FormatAddress` of `infrastructure/turn/turn_message`, and what an address text is: a dotted quad, or
eight groups of hexadecimal digits between single colons, a run of zero groups written as `::`.
-/

namespace VianiumVoip.Turn

open VianiumVoip.Lib

/-! ### The dotted quad -/

/-- The variables of the IPv4 loop; `idx` is the number of parts. -/
structure QuadScan where
  parts : List ℕ := []
  acc : ℕ := 0
  inDigit : Bool := false

/-- The body of the loop; `none` where the function returns. -/
def QuadScan.step (s : QuadScan) (ch : UInt8) : Option QuadScan :=
  if isDigit ch then
    let acc := s.acc * 10 + (ch.toNat - 0x30)
    if 255 < acc then none else some { s with acc := acc, inDigit := true }
  else if ch = 0x2E then
    if s.inDigit = false then none
    else if 4 ≤ s.parts.length then none
    else some { parts := s.parts ++ [s.acc], acc := 0, inDigit := false }
  else none

/-- The loop and the check behind it.  Behind the text the loop reads one more point. -/
def scanQuad (ip : Bytes) : Option (List ℕ) :=
  match (ip ++ [0x2E]).foldlM QuadScan.step {} with
  | none => none
  | some s => if s.parts.length ≠ 4 then none else some s.parts

/-! ### The groups -/

/-- The variables of the IPv6 loop. -/
structure GroupScan where
  groups : List ℕ := List.replicate 8 0
  gIdx : ℕ := 0
  dblColon : Option ℕ := none

/-- The inner loop: at most `left` digits on top of `g`, how many there were, and what comes behind them. -/
def scanGroup : (left g hexCount : ℕ) → Bytes → ℕ × ℕ × Bytes
  | left + 1, g, hexCount, ch :: ip =>
    match hexDigit? ch with
    | some hv => scanGroup left (g <<< 4 ||| hv) (hexCount + 1) ip
    | none => (g, hexCount, ch :: ip)
  | _, g, hexCount, ip => (g, hexCount, ip)

theorem length_scanGroup (left g hexCount : ℕ) (ip : Bytes) :
    (scanGroup left g hexCount ip).2.2.length + (scanGroup left g hexCount ip).2.1 = ip.length + hexCount := by
  fun_induction scanGroup left g hexCount ip with
  | case1 left g hexCount ch ip hv hhex ih =>
    rw [ih, List.length_cons]
    omega
  | case2 => rfl
  | case3 => rfl

/-- The outer loop; `none` where the function returns at a second double colon. -/
def scanGroups (s : GroupScan) (ip : Bytes) : Option GroupScan :=
  match ip with
  | [] => some s
  | c :: rest =>
    if 8 ≤ s.gIdx then some s
    else if c = 0x3A then
      if rest.head? = some 0x3A then
        if s.dblColon.isSome then none else scanGroups { s with dblColon := some s.gIdx } rest.tail
      else scanGroups s rest
    else
      let group := scanGroup 4 0 0 (c :: rest)
      if group.2.1 = 0 then some s
      else scanGroups { s with groups := s.groups.set s.gIdx group.1, gIdx := s.gIdx + 1 } group.2.2
termination_by ip.length
decreasing_by
  · rw [List.length_tail, List.length_cons]
    omega
  · exact Nat.lt_succ_self _
  · have hlen := length_scanGroup 4 0 0 (c :: rest)
    have hcount : (scanGroup 4 0 0 (c :: rest)).2.1 ≠ 0 := by assumption
    omega

/-- The shift of the groups behind the double colon, from the last one on, and the zeros in between. -/
def expandZeros (groups : List ℕ) (dblColon trailing zeros : ℕ) : List ℕ :=
  let groups := (List.range trailing).reverse.foldl
    (fun groups j => groups.set (dblColon + zeros + j) (groups.getD (dblColon + j) 0)) groups
  (List.range zeros).foldl (fun groups j => groups.set (dblColon + j) 0) groups

/-- The groups of an address; `none` where the function returns without one. -/
def scanIpv6 (ip : Bytes) : Option (List ℕ) :=
  match scanGroups {} ip with
  | none => none
  | some s =>
    match s.dblColon with
    | some dblColon =>
      if 8 < s.gIdx then none else some (expandZeros s.groups dblColon (s.gIdx - dblColon) (8 - s.gIdx))
    | none => if s.gIdx ≠ 8 then none else some s.groups

/-- The bytes of a group. -/
def groupBytes (g : ℕ) : Bytes := [UInt8.ofNat ((g >>> 8) &&& 0xFF), UInt8.ofNat (g &&& 0xFF)]

/-- `MakeAddress` -/
def makeAddress (ip : Bytes) (port : ℤ) : TurnAddress :=
  let out : TurnAddress := { port := UInt16.ofNat (port % 2 ^ 16).toNat }
  if ip = [] then out
  else if 0x2E ∈ ip then
    match scanQuad ip with
    | none => out
    | some parts => { out with family := kFamilyIPv4, address := parts.map UInt8.ofNat }
  else
    match scanIpv6 ip with
    | none => out
    | some groups => { out with family := kFamilyIPv6, address := groups.flatMap groupBytes }

/-! ### Writing -/

/-- The group at `i` of an IPv6 address. -/
def groupAt (address : Bytes) (i : ℕ) : ℕ := 256 * (address.getD (2 * i) 0).toNat + (address.getD (2 * i + 1) 0).toNat

/-- `FormatAddress` -/
def formatAddress (a : TurnAddress) : Bytes :=
  if a.family = kFamilyIPv4 ∧ a.address.length = 4 then
    decimal (a.address.getD 0 0).toNat ++ [0x2E] ++ decimal (a.address.getD 1 0).toNat ++ [0x2E]
      ++ decimal (a.address.getD 2 0).toNat ++ [0x2E] ++ decimal (a.address.getD 3 0).toNat ++ [0x3A]
      ++ decimal a.port.toNat
  else if a.family = kFamilyIPv6 ∧ a.address.length = 16 then
    [0x5B] ++ (List.range 8).flatMap (fun i => (if 0 < i then [0x3A] else []) ++ hexadecimal (groupAt a.address i))
      ++ [0x5D, 0x3A] ++ decimal a.port.toNat
  else ascii "(unknown family " ++ decimal a.family.toNat ++ ascii ")"

/-! ### Address texts -/

/-- Texts with colons in between. -/
def colonJoin (texts : List Bytes) : Bytes := List.intercalate [0x3A] texts

/-- A decimal number from 0 to 255. -/
def IsOctet (text : Bytes) : Prop := text ≠ [] ∧ (∀ c ∈ text, isDigit c = true) ∧ digitsValue text ≤ 255

/-- One to four hexadecimal digits. -/
def IsGroup (text : Bytes) : Prop := text ≠ [] ∧ text.length ≤ 4 ∧ ∀ c ∈ text, isHexDigit c = true

/-- The text is a dotted quad and denotes these bytes. -/
def IsDottedQuad (text address : Bytes) : Prop :=
  ∃ a b c d, IsOctet a ∧ IsOctet b ∧ IsOctet c ∧ IsOctet d ∧
    text = a ++ 0x2E :: (b ++ 0x2E :: (c ++ 0x2E :: d)) ∧
    address = [a, b, c, d].map fun octet => UInt8.ofNat (digitsValue octet)

/-- The bytes of a list of groups. -/
def addressOf (groups : List Bytes) : Bytes := groups.flatMap fun group => groupBytes (hexValue group)

/-- The text is eight groups, or fewer and one `::`, and denotes these bytes. -/
def IsIpv6Text (text address : Bytes) : Prop :=
  (∃ groups, groups.length = 8 ∧ (∀ g ∈ groups, IsGroup g) ∧ text = colonJoin groups ∧ address = addressOf groups) ∨
    ∃ front back, front.length + back.length < 8 ∧ (∀ g ∈ front, IsGroup g) ∧ (∀ g ∈ back, IsGroup g) ∧
      text = colonJoin front ++ [0x3A, 0x3A] ++ colonJoin back ∧
      address = addressOf front ++ List.replicate (2 * (8 - (front.length + back.length))) 0 ++ addressOf back

/-- The text is an address and denotes these bytes. -/
def IsAddressText (text address : Bytes) : Prop := IsDottedQuad text address ∨ IsIpv6Text text address

end VianiumVoip.Turn
