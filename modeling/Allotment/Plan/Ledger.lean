import Allotment.Plan.Failure
import Allotment.Ledger.JsonRpc

/-!
# What plans have in common

A plan is what a configuration comes to once everything in it was checked. Nothing is asked of the ledger before there
is a plan.
-/

namespace Allotment

/-- The endpoint of the ledger, and how many seconds a request may take. -/
structure LedgerPlan where
  endpoint : String
  timeoutSecs : UInt64
  deriving DecidableEq

namespace LedgerPlan

/-- The ledger of a plan. -/
def connect {m : Type → Type} [Monad m] (plan : LedgerPlan) (transport : JsonRpc.Transport m) :
    Except LedgerError (Ledger m) :=
  JsonRpc.connect transport plan.endpoint plan.timeoutSecs.toNat

end LedgerPlan

namespace Config

/-- The plan for the ledger: the endpoint must not be blank, and a request may take at least a second. -/
def ledgerPlan (c : Config) : Except ConfigFault LedgerPlan :=
  let endpoint := Text.trim c.ledger.endpoint
  if endpoint.isEmpty then .error .emptyEndpoint else .ok ⟨endpoint, max 1 c.ledger.requestTimeoutSecs⟩

/-- An address in a configuration; none if it is not given or blank. -/
def readAddress (field : String) (text : Option String) : Except ConfigFault (Option Address) :=
  match (text.map Text.trim).filter (!·.isEmpty) with
  | none => .ok none
  | some text =>
    match Address.parse? text with
    | some address => .ok (some address)
    | none => .error (.invalidAddress field text)

/-- An address that a configuration must give, or else the named variable. -/
def requireAddress (field variableName : String) (text : Option String) : Except ConfigFault Address := do
  match ← readAddress field text with
  | some address => return address
  | none => throw (.unsetAddress field variableName)

end Config

end Allotment
