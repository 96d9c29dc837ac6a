import Kurdistan.Support.Bytes
import Kurdistan.Support.Outcome

/-!
# Service results

The categories by which services report failures, on the wire and to their callers.
-/

namespace Kurdistan.Runtime

open Support

/-- `ServiceResultV1`, in the order of its codes. -/
inductive ServiceResultV1 where
  | success
  | notAdmitted
  | invalidRequest
  | destinationDenied
  | resourceLimit
  | timeout
  | unreachable
  | cancelled
  | authorityExpired
  | authorityRevoked
  | internalFailure
  deriving DecidableEq

end Kurdistan.Runtime
