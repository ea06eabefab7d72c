import Kurbu5Pkinit.Plugin.Calls
import Kurbu5Pkinit.Reference.Client

/-!
# A login of the recorded realm

The principals, the profile and the calls of a login that gets armor
anonymously and then a ticket for Alice.
-/

set_option autoImplicit false

namespace Kurbu5Pkinit.Reference

open Library

def anonymousPrincipal : Principal :=
  ⟨[asciiBytes "WELLKNOWN", asciiBytes "ANONYMOUS"], asciiBytes "WELLKNOWN:ANONYMOUS"⟩

def alicePrincipal : Principal := ⟨[asciiBytes "alice"], asciiBytes "EXAMPLE.COM"⟩

def kdcPrincipal : Principal :=
  ⟨[asciiBytes "krbtgt", asciiBytes "EXAMPLE.COM"], asciiBytes "EXAMPLE.COM"⟩

def aliceSource : String := "FILE:/etc/pki/alice.pem,/etc/pki/alice.key"

/-- `krb5.conf`: Alice's identity, trust on first use, and P-256. -/
def clientProfile : Profile where
  getStringOpt defaults key _ :=
    .ok (if defaults = "libdefaults" ∧ key = "pkinit_identities" then some aliceSource else none)
  getValues _ := .ok []
  getBoolean _ key _ default := .ok (key = "pkinit_kdc_trust_tofu" || default)
  getInteger _ key _ default := .ok (if key = "pkinit_dh_min_bits" then 256 else default)

/-- A broker that is not running. -/
def silentVarlink : Varlink where
  base64 := standardBase64
  defaultSocketPath _ := "/run/user/1000/pkinit-trust"
  requestTrust _ _ _ _ _ _ _ _ := .error "connection refused"

def initRequest (principal : Principal) : EtypeInfoRequest where
  instant := clientInstant
  client := some principal
  server := some kdcPrincipal
  realm := some "EXAMPLE.COM"
  profile := .ok clientProfile
  askResponderQuestion _ _ := .ok ()

def initFor (principal : Principal) : PluginCall :=
  .initEtypeInfo (initRequest principal)

def processFor (principal : Principal) (paData : PaData) : PluginCall :=
  .process {
    instant := clientInstant
    paData := paData
    nonce := requestNonce
    client := some principal
    server := some kdcPrincipal
    encodedRequestBody := some requestBody
    encodedPreviousRequest := none
    responderAnswer := fun _ => none
    etype := 18
    preauthTime := .ok (1800000000, 0)
    setAsKey := fun _ => .ok () }

def askAsAlice : PluginCall := processFor alicePrincipal ⟨PA_PK_AS_REQ, []⟩
def giveToken : PluginCall := processFor alicePrincipal ⟨PA_AS_FRESHNESS, firstToken⟩

def pluginRun (calls : List PluginCall) : List PluginEvent × PkinitClient :=
  exec (pluginMachine recorded silentVarlink) ([], {}) calls

theorem run_pluginRun (calls : List PluginCall) :
    Run (pluginMachine recorded silentVarlink) {} (pluginRun calls).1 (pluginRun calls).2 :=
  run_exec _ _ _

/-- Armor was asked for, then Alice's ticket. -/
def mixedRun : List PluginEvent × PkinitClient :=
  pluginRun [initFor anonymousPrincipal, processFor anonymousPrincipal ⟨PA_PK_AS_REQ, []⟩,
    initFor alicePrincipal]

/-- Armor was given up before it was asked for, and Alice asks under the first
token. -/
def aliceRun : List PluginEvent × PkinitClient :=
  pluginRun [initFor anonymousPrincipal, initFor alicePrincipal, giveToken, askAsAlice]

/-- The module after the first of these calls, and so on. -/
def armorModule : PkinitClient := (pluginRun [initFor anonymousPrincipal]).2
def aliceModule : PkinitClient := (pluginRun [initFor anonymousPrincipal, initFor alicePrincipal]).2

def freshModule : PkinitClient :=
  (pluginRun [initFor anonymousPrincipal, initFor alicePrincipal, giveToken]).2

theorem history_of_aliceRun :
    aliceRun.1 = [(pluginMachine recorded silentVarlink).event freshModule askAsAlice,
      (pluginMachine recorded silentVarlink).event aliceModule giveToken,
      (pluginMachine recorded silentVarlink).event armorModule (initFor alicePrincipal),
      (pluginMachine recorded silentVarlink).event {} (initFor anonymousPrincipal)] := by
  simp only [aliceRun, pluginRun, exec, freshModule, aliceModule, armorModule]

end Kurbu5Pkinit.Reference
