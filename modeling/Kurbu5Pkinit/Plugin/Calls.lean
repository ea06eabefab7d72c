import Kurbu5Pkinit.Library.Runs
import Kurbu5Pkinit.Plugin.Client

/-!
# The client plugin as a machine

The calls libkrb5 makes on one module object, one input each. Which party an
exchange is for is a property of the history: the principal of the latest
`init_etype_info` that succeeded.
-/

set_option autoImplicit false

namespace Kurbu5Pkinit

open Library PkinitClient

inductive PluginCall where
  | initEtypeInfo (req : EtypeInfoRequest)
  | process (req : ProcessRequest)
  | tryagain (req : ProcessRequest) (typedData : List (Int × Bytes))
  | supplyGicOpts (attr value : String)

inductive PluginAnswer where
  | done (result : Except Krb5Error Unit)
  | reply (result : Except Krb5Error ProcessReply)
  deriving DecidableEq

/-- One call of libkrb5. -/
def pluginMachine (platform : Platform) (varlink : Varlink) :
    Machine PkinitClient PluginCall PluginAnswer
  | client, .initEtypeInfo req => (call (initEtypeInfo platform varlink req) client).map id .done
  | client, .process req => (call (process platform varlink req) client).map id .reply
  | client, .tryagain req typedData =>
      (call (tryagain platform req typedData) client).map id .reply
  | client, .supplyGicOpts attr value => (call (supplyGicOpts attr value) client).map id .done

abbrev PluginEvent : Type :=
  Event PkinitClient PluginCall PluginAnswer

/-! ## The latest party -/

/-- The principal of a successful `init_etype_info`: whether it is the
anonymous one. -/
def PluginEvent.setsUp (e : PluginEvent) : Option Bool :=
  match e.input, e.output with
  | .initEtypeInfo req, .done (.ok ()) => some req.isAnonymous
  | _, _ => none

/-- The mode asked for by the most recent successful `init_etype_info`. -/
def latestMode (history : List PluginEvent) : Option Bool :=
  history.findSome? PluginEvent.setsUp

/-- The padata an answer sends. -/
def PluginAnswer.sent : PluginAnswer → List PaData
  | .reply (.ok answer) => answer.paData
  | _ => []

end Kurbu5Pkinit
