import Kurdistan.Security.Policy
import Kurdistan.Support.Outcome

/-!
# Traffic key schedules

The data of a `KeySchedule` and the checks every consumer of a schedule makes
before it uses the keys and nonce bases. The derivation of the outputs is not
part of this module.
-/

namespace Kurdistan.Security

open Support

/-- The negotiated primitive suite. -/
structure Suite where
  kdfSuite : Choice KDFSuite
  aeadSuite : Choice AEADSuite
  macSuite : Choice MACSuite
  transcriptHash : String
  deriving DecidableEq

def defaultSuite : Suite where
  kdfSuite := .known .hkdfSHA256
  aeadSuite := .known .aes256GCM
  macSuite := .known .hmacSHA256
  transcriptHash := "transcript_sha256_v1"

def suiteSupported (suite : Suite) : Bool :=
  suite == defaultSuite

/-- The operand-free error of the key schedule: a reason and its cause. -/
structure KDFError where
  reason : String
  cause : SecurityError

def kdfInvalid (cause : SecurityError) (reason : String) : KDFError :=
  { reason, cause }

def keyScheduleKeyBytes : ℕ := 32

def keyScheduleNonceBytes : ℕ := 12

structure KeySchedule where
  suite : Suite
  epoch : UInt64
  clientWriteKey : List UInt8
  serverWriteKey : List UInt8
  clientNonceBase : List UInt8
  serverNonceBase : List UInt8
  exporterSecret : List UInt8
  rekeySecret : List UInt8
  transcriptHash : FixedBytes 32
  boundEpoch : UInt64
  exactV1 : Bool

/-- The disjunction of all bytes, compared with zero. -/
def allZeroKeyBytes (value : List UInt8) : Bool :=
  value.foldl (· ||| ·) 0 == 0

variable (current : KeySchedule)

/-- The outputs of a schedule with the name and length each is checked for. -/
def KeySchedule.outputs : List (String × List UInt8 × ℕ) :=
  [("client_write_key", current.clientWriteKey, keyScheduleKeyBytes),
    ("server_write_key", current.serverWriteKey, keyScheduleKeyBytes),
    ("client_nonce_base", current.clientNonceBase, keyScheduleNonceBytes),
    ("server_nonce_base", current.serverNonceBase, keyScheduleNonceBytes),
    ("exporter_secret", current.exporterSecret, keyScheduleKeyBytes),
    ("rekey_secret", current.rekeySecret, keyScheduleKeyBytes)]

/-- The outputs of equal length, which must be pairwise different. -/
def KeySchedule.equalLengthOutputs : List (List UInt8) :=
  [current.clientWriteKey, current.serverWriteKey, current.exporterSecret, current.rekeySecret]

def validateRatchetSourceV1 : Except KDFError Unit := do
  ensure (current.exactV1 = true) (kdfInvalid .invalidConfig "schedule_version")
  ensure (current.epoch = current.boundEpoch) (kdfInvalid .invalidConfig "epoch_skip")
  ensure (suiteSupported current.suite = true) (kdfInvalid .invalidSuite "suite")
  ensure (allZeroKeyBytes current.transcriptHash.toList = false)
    (kdfInvalid .invalidTranscript "transcript")
  ensureAll (fun (name, value, length) =>
      ensure (value.length = length ∧ allZeroKeyBytes value = false)
        (kdfInvalid .invalidConfig name))
    current.outputs
  ensure (current.equalLengthOutputs.Pairwise (· ≠ ·)) (kdfInvalid .invalidConfig "key_domain")
  ensure (current.clientNonceBase ≠ current.serverNonceBase)
    (kdfInvalid .invalidConfig "nonce_domain")

end Kurdistan.Security
