import Courier.Provider.Apns
import Courier.Provider.Fcm
import Courier.Table

/-!
# The vendors that are set up

Which vendors can be reached follows from the settings. For trials, a vendor that is not set up may
be stood in for.
-/

namespace Courier

/-- The way to a vendor's push service. -/
inductive Provider where
  | fcm (s : FcmSettings)
  | apns (a : Apns)
  /-- One that only pretends, and always succeeds. -/
  | standIn

namespace Provider

/-- Adds a stand-in for a vendor that is not set up. -/
def standInFor (providers : Table Vendor Provider) (vendor : Vendor) : Table Vendor Provider :=
  if providers.contains vendor then providers else providers.insert vendor .standIn

/-- The ways to the vendors that settings name. A key file that cannot be used is an error. -/
def setUp (s : PushSettings) (readFile : String → Except String String) :
    Except ServiceError (Table Vendor Provider) := do
  let withFcm : Table Vendor Provider := match s.fcm with
    | some settings => Table.insert ∅ .fcm (.fcm settings)
    | none => ∅
  let configured ← match s.apns with
    | some settings => do
      let access ← Apns.setUp settings (readFile settings.privateKeyPath)
      pure (withFcm.insert .apns (.apns access))
    | none => pure withFcm
  return if s.mockOffline then [Vendor.fcm, .apns].foldl standInFor configured else configured

/-- What comes of a notification over a network. -/
def push (p : Provider) (sign : SigningKey → List Char → List UInt8)
    (network : Http.Sent → Option Http.Reply) (now : Int) (target : Push.Target)
    (n : Notification) : Except ServiceError Unit :=
  match p with
  | .fcm s => Fcm.conclude ((Fcm.request s target n).exchange network)
  | .apns a => a.push sign network now target n
  | .standIn => .ok ()

end Provider

end Courier
