/-!
# Error values (`error.rs`)
-/

namespace RzRouter

/-- `RZError`: the errors of the router's own operations. -/
inductive RZError
  | parseError (msg : String)
  | config (msg : String)
  | io (msg : String)
  | http (msg : String)
  | resolver (msg : String)
  | noRoute (msg : String)
  | timeout
  | connectionClosed
  | validation (msg : String)
  | system (msg : String)
  | forward (msg : String)
  deriving DecidableEq, Repr

/-- `ForwardError`: how a forward call fails. -/
inductive ForwardError
  | unknownSegment (segment : String)
  | networkError
  | timeout
  | internal (msg : String)
  deriving DecidableEq, Repr

end RzRouter
