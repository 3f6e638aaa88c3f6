import Allotment.Claim.Run
import Allotment.Points.Table
import Allotment.Settings.Store
import Allotment.Snapshot.Artifact

/-!
# What stops a program

A configuration may be incomplete or wrong, and everything a program uses may fail. All failures come together here
with the wording that a person sees.
-/

namespace Allotment

/-- What is wrong with a configuration. -/
inductive ConfigFault where
  | emptyEndpoint
  | emptyPeriod
  | noAccounts
  | invalidAddress (field text : String)
  | unsetAddress (field variableName : String)
  | unreadableAccounts (path : Path) (cause : FileError)
  deriving DecidableEq

/-- The wording of a fault. -/
def ConfigFault.message : ConfigFault → String
  | .emptyEndpoint => "ledger.endpoint is empty"
  | .emptyPeriod => "claim.period is empty"
  | .noAccounts => "no accounts to claim for"
  | .invalidAddress field text => field ++ ": " ++ Text.quoted text ++ " is not a valid address"
  | .unsetAddress field variableName => field ++ " is not set (or export " ++ variableName ++ ")"
  | .unreadableAccounts path cause => "failed to read " ++ path.text ++ ": " ++ cause.message

/-- What stops a program. -/
inductive Failure where
  | config (fault : ConfigFault)
  | settings (cause : SettingsError)
  | key (cause : KeyError)
  | points (cause : Points.Error)
  | artifact (cause : Snapshot.ArtifactError)
  | ledger (cause : LedgerError)
  | claim (cause : Claim.StartError)

/-- The wording of a failure. -/
def Failure.message : Failure → String
  | .config fault => "Configuration error: " ++ fault.message
  | .settings cause => "Settings error: " ++ cause.message
  | .key cause => "Keystore error: " ++ cause.message
  | .points cause => cause.message
  | .artifact cause => cause.message
  | .ledger cause => cause.message
  | .claim cause => cause.message

/-- Something that may fail, as a step of a program. -/
def attempt [Monad m] (failure : ε → Failure) (step : m (Except ε α)) : ExceptT Failure m α :=
  ExceptT.mk do return (← step).mapError failure

end Allotment
