import Allotment.Bytes.Hex
import Allotment.Json.Value

/-!
# Outcomes of claims

Every line of an account list has one outcome, and a report counts the outcomes of each kind.
-/

namespace Allotment.Claim

/-- Why nothing was submitted for an account. -/
inductive Skip where
  | zeroEntitlement
  | queryFailed
  deriving DecidableEq

/-- The wording of a reason. -/
def Skip.text : Skip → String
  | .zeroEntitlement => "zero-entitlement"
  | .queryFailed => "query-failed"

/-- What became of one line; `submitted` says that the ledger took the transaction, not that it is final. -/
inductive Outcome where
  | skipped (reason : Skip)
  | submitted (hash : Digest)
  | failed (reason : String)
  deriving DecidableEq

namespace Outcome

/-- The outcome of a line that is no address. -/
def invalidAddress : Outcome := .failed "invalid-address"

/-- The text of an outcome. -/
def text : Outcome → String
  | .skipped reason => "skipped(" ++ reason.text ++ ")"
  | .submitted hash => "submitted(" ++ Hex.text hash.toList ++ ")"
  | .failed reason => "failed(" ++ reason ++ ")"

/-- Whether a transaction was submitted. -/
def isSubmitted : Outcome → Bool
  | .submitted _ => true
  | _ => false

/-- Whether nothing had to be submitted. -/
def isSkipped : Outcome → Bool
  | .skipped _ => true
  | _ => false

/-- Whether something went wrong. -/
def isFailed : Outcome → Bool
  | .failed _ => true
  | _ => false

end Outcome

/-- How many outcomes there were of each kind. -/
structure Report where
  submitted : Nat
  skipped : Nat
  failed : Nat
  deriving DecidableEq

namespace Report

/-- The report of outcomes. -/
def ofOutcomes (outcomes : List Outcome) : Report where
  submitted := outcomes.countP Outcome.isSubmitted
  skipped := outcomes.countP Outcome.isSkipped
  failed := outcomes.countP Outcome.isFailed

/-- How many outcomes there were. -/
def total (r : Report) : Nat := r.submitted + r.skipped + r.failed

/-- The line that reports the counts. -/
def text (r : Report) : String :=
  "processed=" ++ toString r.total ++ " submitted=" ++ toString r.submitted ++
    " skipped=" ++ toString r.skipped ++ " failed=" ++ toString r.failed

/-- A report as JSON. -/
def toJson (r : Report) : Json :=
  .object [("submitted", .ofNat r.submitted), ("skipped", .ofNat r.skipped), ("failed", .ofNat r.failed)]

end Report

end Allotment.Claim
