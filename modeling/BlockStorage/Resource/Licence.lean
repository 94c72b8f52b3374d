import BlockStorage.Resource.Basic
import BlockStorage.Size

/-!
What a user is told about the licence when it forbids an operation.
-/

namespace BlockStorage.Licence

/-- What is told when a licence is not enough. -/
def upgradeHint : String :=
  "Register this cluster to upgrade from the basic licence and raise its limits."

/-- Who extends a licence. -/
def salesHint : String := "Contact sales to extend the capacity or features of your licence."

/-- What to do about a limit of the licence. -/
def hint (l : Licence) : String := if l.isBasic then upgradeHint else salesHint

/-- The state of the licence in one sentence. -/
def description (l : Licence) : String :=
  "Current licence: " ++ l.kind ++ " (cluster " ++ l.clusterId.text ++ "), " ++
    Size.format l.usedBytes ++ " of " ++ Size.format l.clusterCapacityBytes ++ " used, expires " ++
    l.expiresAt.secondText

end BlockStorage.Licence
