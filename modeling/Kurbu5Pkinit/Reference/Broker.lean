import Kurbu5Pkinit.Brokerd.Store
import Kurbu5Pkinit.Reference.Exchange
import Kurbu5Pkinit.TrustCtl

/-!
# A broker of the recorded realm

Its user approves the realm's CA for an hour. Later the CA renews its
certificate, and for a while the KDC presents both.
-/

set_option autoImplicit false

namespace Kurbu5Pkinit.Reference

open Library Brokerd

/-- The common name of an encoded name. -/
def formatDn (der : Bytes) : String :=
  match synta.name.fromDer der with
  | .ok [[(_, .utf8String text)]] => "CN=" ++ text
  | _ => ""

def broker : BrokerPlatform where
  core := recorded
  base64 := standardBase64
  isFormatCharacter c := c.toNat ∈ [0xAD, 0x200B, 0x200E, 0x200F, 0xFEFF]
  formatDn := formatDn

theorem sha256_injective : Sha256Injective broker.core :=
  fun _ _ _ => hashData_injective

def trustsForAnHour : Prompter := fun request =>
  if request.realm = "EXAMPLE.COM" ∧ request.caSubject = "CN=CA" then
    some (.forSecs 3600)
  else
    none

def askBroker (now : Nat) (interactive : Bool) : DecideCall where
  instant := ⟨now, 0⟩
  realm := "EXAMPLE.COM"
  kdcPrincipal := kdcName
  clientPid := some 4711
  signerDer := kdcCertDer
  presentedDer := [kdcCertDer, caCertDer]
  interactive := interactive
  prompter := trustsForAnHour

/-- Approved, asked for in its last second, and asked for when it has lapsed. -/
def brokerHour : List BrokerEvent × PinStore :=
  exec (brokerMachine broker) ([], .inMemory)
    [askBroker 1800000000 true, askBroker 1800003599 false, askBroker 1800003600 false]

/-- The store in which the realm's CA was approved. -/
def approvedRun : List BrokerEvent × PinStore :=
  exec (brokerMachine broker) ([], .inMemory) [askBroker 1800000000 true]

def writableDisk : Disk where
  createDirAll _ := .ok ()
  write _ _ := .ok ()

/-! ## A renewed CA -/

/-- The CA's key under a second certificate. -/
def renewedCaCertDer : Bytes :=
  [0x3082014B3081F1A003020102020104300A06082A8648CE3D040302300D310B30,
   0x0906035504030C024341301E170D3236313131393033313032375A170D333631,
   0x3131363033313032375A300D310B300906035504030C0243413059301306072A,
   0x8648CE3D020106082A8648CE3D030107034200042EB97EF0E4E573B75169C7E5,
   0x71D0BA361BE7A897862B1C78A0490ED1B1E3B40CEC4620571D41F5A0F443DEA1,
   0xDB11A2AC81082BD064BD2B80EBE392A6C5B81EFDA3423040300F0603551D1301,
   0x01FF040530030101FF300E0603551D0F0101FF040403020204301D0603551D0E,
   0x04160414A8C974AB8FF33F5C01A3A8B904F68E1C7CD9F966300A06082A8648CE,
   0x3D0403020349003046022100E2DAC155A5E2C267D5984233A59801F02752187D,
   0xE768F409A90F50DEA15AF057022100E72AF49B489EDCB9AAEB18E821A24D5FB8].flatMap (bytesOfNat 32) ++
  bytesOfNat 15 0xEE8109BA27839E8C06D2527AD8687D

def renewedCaCertSha256 : Bytes :=
  bytesOfNat 32 0x2B3355E70132F4F7FD99B6B210CFF117A2E7ED8B582F0691846DE4D85559FBE8

/-- The recording with the renewed certificate, to which the KDC's validates
too. -/
def renewedRecording : Recording :=
  { recording with
    digests := recording.digests ++ [(("sha256", renewedCaCertDer), renewedCaCertSha256)]
    paths := recording.paths ++ [(kdcCertDer, [renewedCaCertDer])] }

def renewedBroker : BrokerPlatform :=
  { broker with core := renewedRecording.platform }

/-- A question about the KDC's certificate and these CAs. -/
def askAbout (presentedCas : List Bytes) : DecideCall :=
  { askBroker 1800000060 false with presentedDer := kdcCertDer :: presentedCas }

/-- The store after the first CA was approved. -/
def storeWithCa : PinStore :=
  (PinStore.decide renewedBroker .inMemory (askBroker 1800000000 true)).1

def caPin : Pin where
  caB64 := renewedBroker.base64.encode caCertDer
  fingerprint := String.ofList (caCertSha256.flatMap hexByte)
  expiresAt := some 1800003600

/-! ## The state file -/

/-- One entry of the state file, as `serde_json` lays it out. -/
def pinJson (realm : String) (pin : Pin) : String :=
  let expiresAt := match pin.expiresAt with
    | some exp => toString exp
    | none => "null"
  "  " ++ realm.quote ++ ": \x7b\n    \"ca_b64\": " ++ pin.caB64.quote ++
    ",\n    \"fingerprint\": " ++ pin.fingerprint.quote ++
    ",\n    \"expires_at\": " ++ expiresAt ++ "\n  \x7d"

def pinsJson (pins : Pins) : Bytes :=
  asciiBytes (if pins.entries = [] then "\x7b\x7d" else
    "\x7b\n" ++ ",\n".intercalate (pins.entries.map fun entry => pinJson entry.1 entry.2) ++
      "\n\x7d")

/-- The store as the first approval leaves it. -/
def approvedStore : PinStore :=
  (PinStore.decide broker ⟨some "pins.json", ∅⟩ (askBroker 1800000000 true)).1

/-- A reader that has seen one file. -/
def serde : SerdeJson where
  toVecPretty pins := some (pinsJson pins)
  fromSlice data := if data = pinsJson approvedStore.pins then some approvedStore.pins else none

theorem serde_roundTrips : serde.RoundTrips approvedStore.pins := by
  refine ⟨pinsJson approvedStore.pins, approvedStore.pins, rfl, ?_, fun _ => rfl⟩
  simp only [serde, if_true]

/-- The same three calls on a store with a file: the pin that has lapsed is gone
from memory alone. -/
def hourOnDisk : List DiskEvent × StoreOnDisk :=
  exec (diskMachine broker serde) ([], ⟨⟨some "pins.json", ∅⟩, .missing⟩)
    [.decide (askBroker 1800000000 true), .decide (askBroker 1800003599 false),
      .decide (askBroker 1800003600 false)]

end Kurbu5Pkinit.Reference
