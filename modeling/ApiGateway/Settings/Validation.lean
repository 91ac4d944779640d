import ApiGateway.Settings.Address
import ApiGateway.Settings.Basic
/-!
# Settings — what makes them valid

Settings that are well formed may still make no sense. Every problem is
reported, with the field it is in, in the order of the checks.
-/

namespace ApiGateway

namespace Settings

/-- A problem with the value of a field. -/
inductive Problem where
  | notAnAddress (field value : String)
  | noAttempts
  | delaysCrossed (base most : Nat)
  | noBodies
  | unknownScheme (scheme : String)
  | noTime
  deriving DecidableEq, Repr

namespace Problem

/-- The field that the problem is in. -/
def field : Problem → String
  | notAnAddress f _ => f
  | noAttempts => "snapshot_retry.max_attempts"
  | delaysCrossed _ _ => "snapshot_retry.base_delay_ms"
  | noBodies => "gateway.max_body_size"
  | unknownScheme _ => "gateway.scheme"
  | noTime => "timeouts.request_secs"

/-- What is wrong with it. -/
def message : Problem → String
  | notAnAddress _ v => "'" ++ v ++ "' is not a socket address: invalid socket address syntax"
  | noAttempts => "must be at least 1"
  | delaysCrossed b m =>
    String.ofList (Decimal.digitsOf b) ++ " exceeds max_delay_ms " ++
      String.ofList (Decimal.digitsOf m)
  | noBodies => "must be greater than 0"
  | unknownScheme s => "'" ++ s ++ "' is not http or https"
  | noTime => "must be greater than 0"

/-- Field and message on one line. -/
def text (p : Problem) : String := p.field ++ ": " ++ p.message

end Problem

/-- The problem with an address, if there is one. -/
def addressProblem (field value : String) : List Problem :=
  if SocketAddress.isValid value.toList then [] else [.notAnAddress field value]

/-- The problem, if the condition holds. -/
def problemIf (condition : Bool) (p : Problem) : List Problem := if condition then [p] else []

/-- All problems with the settings, in the order of the checks. -/
def problems (s : Settings) : List Problem :=
  addressProblem "listener.bind_address" s.listener.bindAddress
    ++ addressProblem "store.bind_address" s.store.bindAddress
    ++ (if s.observability.metricsEnabled then
      addressProblem "observability.metrics_address" s.observability.metricsAddress else [])
    ++ problemIf (s.snapshotRetry.maxAttempts = 0) .noAttempts
    ++ problemIf (s.snapshotRetry.maxDelay < s.snapshotRetry.baseDelay)
      (.delaysCrossed s.snapshotRetry.baseDelay s.snapshotRetry.maxDelay)
    ++ problemIf (s.gateway.maxBodySize = 0) .noBodies
    ++ problemIf (s.gateway.scheme ≠ "http" ∧ s.gateway.scheme ≠ "https")
      (.unknownScheme s.gateway.scheme)
    ++ problemIf (s.timeouts.requestSeconds = 0) .noTime

end Settings

end ApiGateway
