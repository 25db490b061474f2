import VianiumVoip.Srtp.PacketCodec

/-!
# Session keys

`SrtpSessionKeys`: the key derivation of RFC 3711, section 4.3, with key derivation rate zero.  Each session key
is the start of a keystream under the master key, from a counter that is the master salt with a label in
byte 7.
-/

namespace VianiumVoip.Srtp

open VianiumVoip.Lib

structure SrtpKeys where
  masterKey : Bytes
  masterSalt : Bytes

def kLabelEncryption : UInt8 := 0x00
def kLabelAuthentication : UInt8 := 0x01
def kLabelSalt : UInt8 := 0x02

def buildKdfCounter (master : SrtpKeys) (label : UInt8) : Bytes :=
  (master.masterSalt.take 14).modify 7 (· ^^^ label) ++ [0, 0]

variable (C : Crypto)

/-- The loop for outputs of more than one buffer of zeros. -/
def deriveLoop (masterKey counter : Bytes) (len : ℕ) : Bytes :=
  if len = 0 then []
  else
    let take := min len 32
    SrtpAesCtr.encrypt C masterKey counter (List.replicate take 0)
      ++ deriveLoop masterKey (incrementCounter^[(take + 15) / 16] counter) (len - take)

def deriveBytes (master : SrtpKeys) (label : UInt8) (len : ℕ) : Bytes :=
  let counter := buildKdfCounter master label
  if len ≤ 32 then SrtpAesCtr.encrypt C master.masterKey counter (List.replicate len 0)
  else deriveLoop C master.masterKey counter len

def deriveSessionEncrKey (master : SrtpKeys) : Bytes := deriveBytes C master kLabelEncryption 16
def deriveSessionAuthKey (master : SrtpKeys) : Bytes := deriveBytes C master kLabelAuthentication 20
def deriveSessionSalt (master : SrtpKeys) : Bytes := deriveBytes C master kLabelSalt 14

theorem length_deriveBytes (master : SrtpKeys) (label : UInt8) {len : ℕ} (h : len ≤ 32) :
    (deriveBytes C master label len).length = len := by
  simp [deriveBytes, if_pos h]

/-- The parameters of a direction at the start of a session, with the keys of `master`. -/
def SrtpEncryptParams.initial (master : SrtpKeys) (ssrc : UInt32) : SrtpEncryptParams where
  sessionEncrKey := deriveSessionEncrKey C master
  sessionAuthKey := deriveSessionAuthKey C master
  sessionSalt := deriveSessionSalt C master
  ssrc := ssrc
  rolloverCounter := 0
  lastSequenceNumber := 0
  hasLastSequenceNumber := false
  length_sessionEncrKey := length_deriveBytes C _ _ (by decide)
  length_sessionAuthKey := length_deriveBytes C _ _ (by decide)
  length_sessionSalt := length_deriveBytes C _ _ (by decide)

end VianiumVoip.Srtp
