import ApiGateway.OrderedMap
import ApiGateway.RateLimit.Quota
import ApiGateway.Record.Product
/-!
# Rate limits — allowances

Every limit of a plan gives each client a bucket of tokens, as many as
its count at first. A check takes one token from the bucket of every
limit in turn and is rejected at the first empty one; tokens that were
taken before stay taken. Buckets are kept under the scope, the client and
the name of the limit, joined with colons. Time does not pass here: no
token comes back except by a reset.
-/

namespace ApiGateway

/-- The tokens that are left, by bucket. -/
abbrev Buckets := OrderedMap String Nat

namespace Buckets

/-- The name of a bucket. -/
def bucketName (scope client limit : String) : String := scope ++ ":" ++ client ++ ":" ++ limit

/-- The tokens left in a bucket that can hold `capacity`; a bucket that
is not there yet is full. -/
def tokens (b : Buckets) (bucket : String) (capacity : Nat) : Nat :=
  match OrderedMap.get? b bucket with
  | some n => min n capacity
  | none => capacity

/-- One token taken from a bucket, and whether there was one. -/
def take (b : Buckets) (bucket : String) (capacity : Nat) : Bool × Buckets :=
  let n := b.tokens bucket capacity
  (0 < n, OrderedMap.insert b bucket (n - 1))

/-- What became of a check. -/
inductive Verdict where
  | admitted
  /-- The limit of this name had no token left. -/
  | exceeded (limit : String)
  deriving DecidableEq, Repr

/-- What is said of a rejected check. -/
def exceededMessage (limit : String) : String := "rate limit '" ++ limit ++ "' exceeded"

/-- One token taken for each limit in turn, up to the first that has
none. Limits without a valid quota, and unlimited ones, are passed
over. -/
def check (b : Buckets) (scope client : String) : List RateLimit → Verdict × Buckets
  | [] => (.admitted, b)
  | limit :: limits =>
    match Quota.parse? limit.value with
    | some (.limited count _) =>
      match b.take (bucketName scope client limit.name) count with
      | (true, b') => check b' scope client limits
      | (false, b') => (.exceeded limit.name, b')
    | _ => check b scope client limits

end Buckets

end ApiGateway
