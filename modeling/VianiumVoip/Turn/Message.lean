import VianiumVoip.Lib.Tlv
import Mathlib.Tactic.IntervalCases

/-!
# TURN messages

The message type, the attributes and the decoder of `infrastructure/turn`.

RFC 5389 interleaves the two bits of the message class with the twelve of the method: C0 at bit 4, C1 at bit 8 and
the method around them.  `TurnMethodOf` inverts this packing.  `TurnClassOf` reads C1 from bit 9, where the
packing puts bit 7 of the method, so it is right exactly for the types in which the two bits agree
(`turnClassOf_eq_iff`).
-/

namespace VianiumVoip.Turn

open VianiumVoip.Lib

def kMagicCookie : UInt32 := 0x2112A442
def kFamilyIPv4 : UInt8 := 0x01
def kFamilyIPv6 : UInt8 := 0x02

def kMethodBinding : UInt16 := 0x001
def kMethodAllocate : UInt16 := 0x003
def kMethodRefresh : UInt16 := 0x004
def kMethodSend : UInt16 := 0x006
def kMethodData : UInt16 := 0x007
def kMethodCreatePermission : UInt16 := 0x008

def kClassRequest : UInt16 := 0x000
def kClassIndication : UInt16 := 0x010
def kClassSuccess : UInt16 := 0x100
def kClassError : UInt16 := 0x110

/-! ### The message type -/

def turnMessageType (method cls : UInt16) : UInt16 :=
  let methodBits := method &&& 0x0F ||| (method &&& 0x70) <<< (1 : UInt16) ||| (method &&& 0xF80) <<< (2 : UInt16)
  let classBits := cls &&& 0x10 ||| (cls &&& 0x100) <<< (1 : UInt16)
  methodBits ||| classBits

def turnMethodOf (type : UInt16) : UInt16 :=
  type &&& 0x000F ||| (type &&& 0x00E0) >>> (1 : UInt16) ||| (type &&& 0x3E00) >>> (2 : UInt16)

def turnClassOf (type : UInt16) : UInt16 := type &&& 0x0010 ||| (type &&& 0x0200) >>> (1 : UInt16)

/-- The four classes of RFC 5389. -/
inductive MessageClass
  | request
  | indication
  | success
  | error
  deriving DecidableEq

namespace MessageClass

/-- The constant that the code has for a class. -/
def value : MessageClass → UInt16
  | request => kClassRequest
  | indication => kClassIndication
  | success => kClassSuccess
  | error => kClassError

/-- The class with given bits C1 and C0. -/
def ofBits : (c1 c0 : Bool) → MessageClass
  | false, false => request
  | false, true => indication
  | true, false => success
  | true, true => error

end MessageClass

/-- The class of a message type by RFC 5389: C1 at bit 8, C0 at bit 4. -/
def rfcClassOf (type : UInt16) : MessageClass := .ofBits (type &&& 0x0100 ≠ 0) (type &&& 0x0010 ≠ 0)

/-- The packing of RFC 5389: M0 to M3 at bits 0 to 3, M4 to M6 at bits 5 to 7, M7 to M11 at bits 9 to 13, and the class
at bits 4 and 8. -/
def rfcMessageType (method : UInt16) (cls : MessageClass) : UInt16 :=
  (method &&& 0x000F ||| (method &&& 0x0070) <<< (1 : UInt16) ||| (method &&& 0x0F80) <<< (2 : UInt16)) ||| cls.value

theorem and_bit_cases (type : UInt16) {i : ℕ} (hi : i < 16) :
    type &&& UInt16.ofNat (2 ^ i) = 0 ∨ type &&& UInt16.ofNat (2 ^ i) = UInt16.ofNat (2 ^ i) := by
  have hpow : 2 ^ i < 2 ^ 16 := Nat.pow_lt_pow_right (by omega) hi
  have hand : (type &&& UInt16.ofNat (2 ^ i)).toNat = (type.toNat.testBit i).toNat * 2 ^ i := by
    rw [UInt16.toNat_and, UInt16.toNat_ofNat', Nat.mod_eq_of_lt hpow, Nat.and_two_pow]
  cases hbit : type.toNat.testBit i with
  | false =>
    left
    apply UInt16.toNat_inj.1
    rw [hand, hbit]
    simp
  | true =>
    right
    apply UInt16.toNat_inj.1
    rw [hand, hbit, UInt16.toNat_ofNat', Nat.mod_eq_of_lt hpow]
    simp

/-- **The class that the code extracts is the class of the type exactly when bits 8 and 9 agree.** -/
theorem turnClassOf_eq_iff (type : UInt16) :
    turnClassOf type = (rfcClassOf type).value ↔ (type &&& 0x0100 = 0 ↔ type &&& 0x0200 = 0) := by
  have h4 : type &&& 0x0010 = 0 ∨ type &&& 0x0010 = 0x0010 := and_bit_cases type (i := 4) (by omega)
  have h8 : type &&& 0x0100 = 0 ∨ type &&& 0x0100 = 0x0100 := and_bit_cases type (i := 8) (by omega)
  have h9 : type &&& 0x0200 = 0 ∨ type &&& 0x0200 = 0x0200 := and_bit_cases type (i := 9) (by omega)
  unfold turnClassOf rfcClassOf
  rcases h4 with h4 | h4 <;> rcases h8 with h8 | h8 <;> rcases h9 with h9 | h9 <;> rw [h4, h8, h9] <;> decide

/-- The code takes a message for a response exactly when bit 9 is set. -/
theorem turnClassOf_response_iff (type : UInt16) :
    turnClassOf type = kClassSuccess ∨ turnClassOf type = kClassError ↔ type &&& 0x0200 ≠ 0 := by
  have h4 : type &&& 0x0010 = 0 ∨ type &&& 0x0010 = 0x0010 := and_bit_cases type (i := 4) (by omega)
  have h9 : type &&& 0x0200 = 0 ∨ type &&& 0x0200 = 0x0200 := and_bit_cases type (i := 9) (by omega)
  unfold turnClassOf
  rcases h4 with h4 | h4 <;> rcases h9 with h9 | h9 <;> rw [h4, h9] <;> decide

theorem rfcClassOf_response_iff (type : UInt16) :
    rfcClassOf type = .success ∨ rfcClassOf type = .error ↔ type &&& 0x0100 ≠ 0 := by
  have h4 : type &&& 0x0010 = 0 ∨ type &&& 0x0010 = 0x0010 := and_bit_cases type (i := 4) (by omega)
  have h8 : type &&& 0x0100 = 0 ∨ type &&& 0x0100 = 0x0100 := and_bit_cases type (i := 8) (by omega)
  unfold rfcClassOf
  rcases h4 with h4 | h4 <;> rcases h8 with h8 | h8 <;> rw [h4, h8] <;> decide

theorem high_bit {x : UInt16} {n i : ℕ} (h : x.toNat < 2 ^ n) (hni : n ≤ i) (hi : i < 16) : x.toBitVec[i] = false := by
  have hlt : x.toNat < 2 ^ i := h.trans_le (Nat.pow_le_pow_right (by omega) hni)
  exact Nat.testBit_lt_two_pow hlt

theorem turnMethodOf_or (x y : UInt16) : turnMethodOf (x ||| y) = turnMethodOf x ||| turnMethodOf y := by
  apply UInt16.toBitVec_inj.1
  ext i hi
  interval_cases i <;> simp [turnMethodOf]

theorem turnMethodOf_class (cls : MessageClass) : turnMethodOf cls.value = 0 := by
  cases cls <;> decide

/-- **The method that the code extracts inverts the packing**, for every 12-bit method and every class. -/
theorem turnMethodOf_rfcMessageType {method : UInt16} (h : method < 0x1000) (cls : MessageClass) :
    turnMethodOf (rfcMessageType method cls) = method := by
  have hhigh : ∀ i (hi : i < 16), 12 ≤ i → method.toBitVec[i] = false := by
    intro i hi hle
    exact high_bit (n := 12) h hle hi
  -- the bits of the class are none of those that the code reads
  rw [rfcMessageType, turnMethodOf_or, turnMethodOf_class, UInt16.or_zero]
  apply UInt16.toBitVec_inj.1
  ext i hi
  interval_cases i <;> simp [turnMethodOf, hhigh]

/-- Every 14-bit type is the packing of its method and its class. -/
theorem rfcMessageType_turnMethodOf {type : UInt16} (h : type < 0x4000) :
    rfcMessageType (turnMethodOf type) (rfcClassOf type) = type := by
  have hhigh : ∀ i (hi : i < 16), 14 ≤ i → type.toBitVec[i] = false := by
    intro i hi hle
    exact high_bit (n := 14) h hle hi
  have hclass : (rfcClassOf type).value = type &&& 0x0110 := by
    have h4 : type &&& 0x0010 = 0 ∨ type &&& 0x0010 = 0x0010 := and_bit_cases type (i := 4) (by omega)
    have h8 : type &&& 0x0100 = 0 ∨ type &&& 0x0100 = 0x0100 := and_bit_cases type (i := 8) (by omega)
    have hsplit : type &&& 0x0110 = type &&& 0x0010 ||| type &&& 0x0100 := by
      apply UInt16.toBitVec_inj.1
      ext i hi
      interval_cases i <;> simp
    unfold rfcClassOf
    rcases h4 with h4 | h4 <;> rcases h8 with h8 | h8 <;> rw [hsplit, h4, h8] <;> decide
  rw [rfcMessageType, hclass]
  apply UInt16.toBitVec_inj.1
  ext i hi
  interval_cases i <;> simp [turnMethodOf, hhigh]

theorem turnMethodOf_lt (type : UInt16) : turnMethodOf type < 0x1000 := by
  have h1 : type.toNat &&& 0x000F ≤ 0x000F := Nat.and_le_right
  have h2 : type.toNat &&& 0x00E0 ≤ 0x00E0 := Nat.and_le_right
  have h3 : type.toNat &&& 0x3E00 ≤ 0x3E00 := Nat.and_le_right
  apply UInt16.lt_iff_toNat_lt.2
  simp only [turnMethodOf, UInt16.toNat_or, UInt16.toNat_and, UInt16.toNat_shiftRight, UInt16.reduceToNat,
    Nat.reduceMod, Nat.shiftRight_eq_div_pow]
  exact Nat.or_lt_two_pow (n := 12) (Nat.or_lt_two_pow (by omega) (by omega)) (by omega)

theorem rfcClassOf_rfcMessageType (method : UInt16) (cls : MessageClass) :
    rfcClassOf (rfcMessageType method cls) = cls := by
  -- the method leaves both bits of the class clear
  have hbits : rfcMessageType method cls &&& 0x0100 = cls.value &&& 0x0100 ∧
      rfcMessageType method cls &&& 0x0010 = cls.value &&& 0x0010 := by
    constructor <;> apply UInt16.toBitVec_inj.1 <;> ext i hi <;> interval_cases i <;> simp [rfcMessageType]
  rw [rfcClassOf, hbits.1, hbits.2]
  cases cls <;> decide

/-! ### Messages -/

def kAttrUsername : UInt16 := 0x0006
def kAttrMessageIntegrity : UInt16 := 0x0008
def kAttrErrorCode : UInt16 := 0x0009
def kAttrLifetime : UInt16 := 0x000D
def kAttrXorPeerAddress : UInt16 := 0x0012
def kAttrData : UInt16 := 0x0013
def kAttrRealm : UInt16 := 0x0014
def kAttrNonce : UInt16 := 0x0015
def kAttrXorRelayedAddress : UInt16 := 0x0016
def kAttrRequestedTransport : UInt16 := 0x0019
def kAttrXorMappedAddress : UInt16 := 0x0020

structure TurnAddress where
  family : UInt8 := 0
  port : UInt16 := 0
  address : Bytes := []
  deriving DecidableEq

/-- A field and its `Has…` flag are one option. -/
structure TurnMessage where
  type : UInt16 := 0
  transactionId : Bytes := List.replicate 12 0
  username : Option Bytes := none
  realm : Option Bytes := none
  nonce : Option Bytes := none
  errorCode : Option ℕ := none
  errorReason : Bytes := []
  xorMapped : Option TurnAddress := none
  xorRelayed : Option TurnAddress := none
  xorPeers : List TurnAddress := []
  data : Option Bytes := none
  lifetime : Option UInt32 := none
  requestedTransport : Option UInt8 := none
  messageIntegrity : Option Bytes := none
  raw : Bytes := []
  deriving DecidableEq

/-- `DecodeXorAddress`; `none` where it returns false. -/
def decodeXorAddress (val txnId : Bytes) : Option TurnAddress :=
  if val.length < 8 then none
  else
    let family := val.getD 1 0
    let port := loadBE16 (val.drop 2) ^^^ (kMagicCookie >>> 16).toUInt16
    if family = kFamilyIPv4 then
      some { family := family, port := port, address := storeBE32 (loadBE32 (val.drop 4) ^^^ kMagicCookie) }
    else if family = kFamilyIPv6 then
      if val.length < 20 then none
      else some { family := family, port := port, address := xorBytes ((val.drop 4).take 16) (storeBE32 kMagicCookie ++ txnId) }
    else none

/-- The switch over the attribute type. -/
def readAttribute (out : TurnMessage) (a : Tlv.Attribute) : TurnMessage :=
  if a.type = kAttrUsername then { out with username := some a.value }
  else if a.type = kAttrRealm then { out with realm := some a.value }
  else if a.type = kAttrNonce then { out with nonce := some a.value }
  else if a.type = kAttrErrorCode then
    if 4 ≤ a.value.length then
      { out with
        errorCode := some ((a.value.getD 2 0 &&& 0x07).toNat * 100 + (a.value.getD 3 0).toNat)
        errorReason := if 4 < a.value.length then a.value.drop 4 else out.errorReason }
    else out
  else if a.type = kAttrXorMappedAddress then
    match decodeXorAddress a.value out.transactionId with
    | some addr => { out with xorMapped := some addr }
    | none => out
  else if a.type = kAttrXorRelayedAddress then
    match decodeXorAddress a.value out.transactionId with
    | some addr => { out with xorRelayed := some addr }
    | none => out
  else if a.type = kAttrXorPeerAddress then
    match decodeXorAddress a.value out.transactionId with
    | some addr => { out with xorPeers := out.xorPeers ++ [addr] }
    | none => out
  else if a.type = kAttrData then { out with data := some a.value }
  else if a.type = kAttrLifetime then
    if a.value.length = 4 then { out with lifetime := some (loadBE32 a.value) } else out
  else if a.type = kAttrRequestedTransport then
    if a.value.length = 4 then { out with requestedTransport := some (a.value.getD 0 0) } else out
  else if a.type = kAttrMessageIntegrity then
    if a.value.length = 20 then { out with messageIntegrity := some a.value } else out
  else out

/-- `DecodeMessage` -/
def decodeMessage (bytes : Bytes) : Option TurnMessage :=
  if bytes.length < 20 then none
  else if 0x03 < bytes.getD 0 0 then none
  else
    let attrLen := (loadBE16 (bytes.drop 2)).toNat
    if loadBE32 (bytes.drop 4) ≠ kMagicCookie then none
    else if bytes.length < 20 + attrLen then none
    else
      let out : TurnMessage := { type := loadBE16 bytes, transactionId := (bytes.drop 8).take 12, raw := bytes }
      (Tlv.attributes ((bytes.drop 20).take attrLen)).map fun attributes => attributes.foldl readAttribute out

theorem type_ite {c : Prop} [Decidable c] {out m₁ m₂ : TurnMessage} (h₁ : m₁.type = out.type)
    (h₂ : m₂.type = out.type) : (if c then m₁ else m₂).type = out.type := by
  by_cases hc : c
  · rw [if_pos hc, h₁]
  · rw [if_neg hc, h₂]

theorem type_setAddress {out : TurnMessage} {set : TurnAddress → TurnMessage} (addr : Option TurnAddress)
    (h : ∀ addr, (set addr).type = out.type) :
    (match addr with
      | some addr => set addr
      | none => out).type = out.type := by
  cases addr with
  | none => rfl
  | some addr => exact h addr

theorem readAttribute_type (out : TurnMessage) (a : Tlv.Attribute) : (readAttribute out a).type = out.type := by
  unfold readAttribute
  repeat' apply type_ite
  all_goals first | rfl | exact type_setAddress _ fun _ => rfl

theorem foldl_readAttribute_type (attributes : List Tlv.Attribute) (out : TurnMessage) :
    (attributes.foldl readAttribute out).type = out.type := by
  induction attributes generalizing out with
  | nil => rfl
  | cons a attributes ih => rw [List.foldl_cons, ih, readAttribute_type]

/-- What is decoded is a datagram that looks like STUN, of a 14-bit type. -/
theorem of_decodeMessage {bytes : Bytes} {msg : TurnMessage} (h : decodeMessage bytes = some msg) :
    20 ≤ bytes.length ∧ bytes.getD 0 0 ≤ 0x03 ∧ msg.type = loadBE16 bytes := by
  unfold decodeMessage at h
  simp only at h
  split_ifs at h with hlen hfirst
  obtain ⟨attributes, -, rfl⟩ := Option.map_eq_some_iff.1 h
  exact ⟨by omega, UInt8.not_lt.1 hfirst, foldl_readAttribute_type _ _⟩

end VianiumVoip.Turn
