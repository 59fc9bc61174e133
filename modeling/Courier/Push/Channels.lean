import Courier.Platform
import Courier.ServiceError

/-!
# Offline channels

A user without a live session is reached through the vendor of each registered platform, if the
vendor's push service is set up.
-/

namespace Courier.Push

/-- The vendor through which a platform is reached, among those that are set up. -/
def channel (vendors : List Vendor) (platform : Int32) : Except ServiceError Vendor :=
  match (Platform.ofId? platform).bind Platform.vendor? with
  | none =>
    .error (.noOfflinePusher ("platform " ++ toString platform.toInt ++
      " has no offline push channel"))
  | some vendor =>
    if vendor ∈ vendors then .ok vendor
    else .error (.noOfflinePusher (vendor.name ++ " provider not configured"))

end Courier.Push
