import VianiumVoip.Lib.Bytes

/-!
# DTLS 1.2 record framing

`DtlsRecordCodec` of `infrastructure/dtls/dtls_record.cpp`: a 13-byte header (type, version, epoch, 48-bit
sequence number, length) and the payload.  A record is decoded from the front of a datagram, and `consumed`
says how many bytes it took.
-/

namespace VianiumVoip.Dtls

open VianiumVoip.Lib

def kDtlsContentChangeCipherSpec : UInt8 := 20
def kDtlsContentAlert : UInt8 := 21
def kDtlsContentHandshake : UInt8 := 22
def kDtlsContentApplicationData : UInt8 := 23

def kDtlsVersion12 : UInt16 := 0xFEFD

def kDtlsRecordHeaderSize : ℕ := 13

structure DtlsRecord where
  type : UInt8
  version : UInt16
  epoch : UInt16
  sequenceNumber : UInt64
  payload : Bytes
  deriving DecidableEq, Repr

namespace DtlsRecordCodec

/-- `DtlsRecordCodec::Encode` -/
def encode (r : DtlsRecord) : Bytes :=
  [r.type] ++ storeBE16 r.version ++ storeBE16 r.epoch ++ storeBE48 r.sequenceNumber
    ++ storeBE16 (UInt16.ofNat r.payload.length) ++ r.payload

/-- `DtlsRecordCodec::Decode`: the record and the number of bytes it takes. -/
def decode (data : Bytes) : Option (DtlsRecord × ℕ) :=
  if data.length < kDtlsRecordHeaderSize then none
  else
    let length := (loadBE16 (data.drop 11)).toNat
    if data.length < kDtlsRecordHeaderSize + length then none
    else
      some ({ type := data.getD 0 0
              version := loadBE16 (data.drop 1)
              epoch := loadBE16 (data.drop 3)
              sequenceNumber := loadBE48 (data.drop 5)
              payload := (data.drop kDtlsRecordHeaderSize).take length },
            kDtlsRecordHeaderSize + length)

theorem decode_eq_some {data : Bytes} {r : DtlsRecord} {consumed : ℕ} (h : decode data = some (r, consumed)) :
    consumed = kDtlsRecordHeaderSize + r.payload.length ∧ consumed ≤ data.length := by
  simp only [decode] at h
  split_ifs at h with hsize hlen
  obtain ⟨rfl, rfl⟩ := Prod.mk.inj (Option.some.inj h)
  have hdrop : (data.drop kDtlsRecordHeaderSize).length = data.length - kDtlsRecordHeaderSize :=
    List.length_drop
  refine ⟨?_, by omega⟩
  rw [List.length_take, hdrop]
  omega

/-- A record takes at least its header, so a loop over records comes to an end. -/
theorem consumed_pos {data : Bytes} {r : DtlsRecord} {consumed : ℕ} (h : decode data = some (r, consumed)) :
    0 < consumed ∧ consumed ≤ data.length := by
  obtain ⟨hc, hle⟩ := decode_eq_some h
  refine ⟨?_, hle⟩
  rw [hc]
  exact Nat.add_pos_left (by decide) _

@[simp] theorem decode_nil : decode [] = none := rfl

theorem length_encode (r : DtlsRecord) : (encode r).length = kDtlsRecordHeaderSize + r.payload.length := by
  simp [encode, kDtlsRecordHeaderSize]
  omega

/-- An encoded record whose payload fits the length field is decoded from in front of anything. -/
theorem decode_encode (r : DtlsRecord) (rest : Bytes) (hlen : r.payload.length < 2 ^ 16)
    (hseq : r.sequenceNumber.toNat < 2 ^ 48) :
    decode (encode r ++ rest) = some (r, kDtlsRecordHeaderSize + r.payload.length) := by
  have hlenField : (UInt16.ofNat r.payload.length).toNat = r.payload.length := by
    rw [UInt16.toNat_ofNat', Nat.mod_eq_of_lt hlen]
  have hseqField (t : Bytes) : loadBE48 (storeBE48 r.sequenceNumber ++ t) = r.sequenceNumber := by
    rw [← UInt64.toNat_inj, loadBE48_store, Nat.mod_eq_of_lt hseq]
  have hsize : (encode r ++ rest).length = kDtlsRecordHeaderSize + r.payload.length + rest.length := by
    rw [List.length_append, length_encode]
  have hbytes : encode r ++ rest = r.type :: (storeBE16 r.version ++ (storeBE16 r.epoch ++
      (storeBE48 r.sequenceNumber ++ (storeBE16 (UInt16.ofNat r.payload.length) ++ (r.payload ++ rest))))) := by
    simp [encode]
  have hloadLen : (loadBE16 ((encode r ++ rest).drop 11)).toNat = r.payload.length := by
    rw [hbytes]
    simp [hlenField]
  rw [decode, if_neg (by omega)]
  simp only [hloadLen]
  rw [if_neg (by omega), hbytes]
  simp [kDtlsRecordHeaderSize, hseqField]

end DtlsRecordCodec

end VianiumVoip.Dtls
