import Kurbu5Pkinit.Plugin.Client
import Kurbu5Pkinit.Plugin.Kdc

/-!
# The KDC plugin's reply callback

Once a request is verified the KDC asks the plugin for the padata of its
reply. The plugin has the core build it and replaces the key the reply is
encrypted under.
-/

set_option autoImplicit false

namespace Kurbu5Pkinit

open Library

/-- What `return_padata` reads: the request the plugin verified before (none
when the KDC kept nothing, or something of another module), the KDC's request
with its server, either of which may be a null pointer, and its encoding. -/
structure ReturnPadataRequest where
  modreq : Option VerifiedRequest
  request : Option (Option Principal)
  requestPacket : Bytes

/-- The callbacks a reply needs: the encryption type of the FAST armor key, the
client's name, and what takes the new reply key. -/
structure ReplyCallbacks where
  fastArmor : Option Int32
  clientNameString : Option String
  replaceReplyKey : DerivedKey → Except Krb5Error Unit

def ENCTYPE_AES256_CTS_HMAC_SHA1_96 : Int32 := 18

namespace PkinitKdc

/-- The padata of the reply, and the key handed to the KDC. -/
def returnPkinitDh (platform : Platform) (instant : Instant) (kdc : PkinitKdc)
    (req : ReturnPadataRequest) (callbacks : ReplyCallbacks) :
    Except Krb5Error (PaData × DerivedKey) := do
  let verified ← okOr req.modreq (.custom EINVAL)
  let enctype := callbacks.fastArmor.getD ENCTYPE_AES256_CTS_HMAC_SHA1_96
  let clientName ← okOr callbacks.clientNameString (.custom EINVAL)
  let request ← okOr req.request (.custom EINVAL)
  let server ← okOr request (.custom EINVAL)
  let serverName ← (platform.krb5.unparsePrincipal server).mapError .library
  let (paRepDer, derived) ← (kdc.state.buildAsRep platform (krb5OctetString2Key platform) instant
    verified {
      nonce := verified.nonce
      enctype := enctype
      asReqDer := req.requestPacket
      clientName := clientName
      serverName := serverName }).mapError fun _ => .custom EINVAL
  callbacks.replaceReplyKey derived
  return (⟨PA_PK_AS_REP, paRepDer⟩, derived)

variable {platform : Platform} {instant : Instant} {kdc : PkinitKdc}
  {req : ReturnPadataRequest} {callbacks : ReplyCallbacks}

/-- The parameters the callback gives to `build_as_rep` for this request. -/
structure Gathers (platform : Platform) (req : ReturnPadataRequest) (callbacks : ReplyCallbacks)
    (verified : VerifiedRequest) (params : BuildAsRepParams) : Prop where
  kept : req.modreq = some verified
  nonce : params.nonce = verified.nonce
  enctype : params.enctype = callbacks.fastArmor.getD ENCTYPE_AES256_CTS_HMAC_SHA1_96
  packet : params.asReqDer = req.requestPacket
  client : callbacks.clientNameString = some params.clientName
  server : ∃ server, req.request = some (some server) ∧
    platform.krb5.unparsePrincipal server = .ok params.serverName

/-- **The callback's answer is that of `build_as_rep`, except that every
failure of it becomes `EINVAL`.** -/
theorem returnPkinitDh_of_gathers {verified : VerifiedRequest} {params : BuildAsRepParams}
    (gathers : Gathers platform req callbacks verified params) :
    kdc.returnPkinitDh platform instant req callbacks = do
      let (paRepDer, derived) ← (kdc.state.buildAsRep platform (krb5OctetString2Key platform)
        instant verified params).mapError fun _ => .custom EINVAL
      callbacks.replaceReplyKey derived
      return (⟨PA_PK_AS_REP, paRepDer⟩, derived) := by
  obtain ⟨kept, nonce, enctype, packet, client, server, requested, unparsed⟩ := gathers
  have given : params = ⟨verified.nonce,
      callbacks.fastArmor.getD ENCTYPE_AES256_CTS_HMAC_SHA1_96, req.requestPacket,
      params.clientName, params.serverName⟩ := by
    rw [← nonce, ← enctype, ← packet]
  rw [given]
  simp only [returnPkinitDh, kept, client, requested, unparsed, okOr_some, mapError_ok, ok_bind]

theorem returnPkinitDh_of_error {verified : VerifiedRequest} {params : BuildAsRepParams}
    {e : PkinitError} (gathers : Gathers platform req callbacks verified params)
    (failed : kdc.state.buildAsRep platform (krb5OctetString2Key platform) instant verified params =
      .error e) :
    kdc.returnPkinitDh platform instant req callbacks = .error (.custom EINVAL) := by
  rw [returnPkinitDh_of_gathers gathers, failed]
  rfl

end PkinitKdc

end Kurbu5Pkinit
