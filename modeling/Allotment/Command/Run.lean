import Allotment.Command.Invocation
import Allotment.Plan.Snapshot
import Allotment.Settings.Override

/-!
# Running a command line

A run loads the settings, takes what the environment and the command line give in their place, makes a plan and carries
it out. Standard output gets a line for each account and a line with the totals, but nothing at all when a run does not
get that far.
-/

namespace Allotment.Command

/-- The name of the program, and of the service whose settings it uses. -/
def programName : String := "rewardsync"

/-- The version of the program. -/
def version : String := "0.1.0"

/-- The text that tells how the program is used. -/
def helpText : String :=
  "Contribution snapshot and reward claim tool\n\n" ++
  "Usage: rewardsync [OPTIONS] <COMMAND>\n\n" ++
  "Commands:\n" ++
  "  snapshot  Build the allocation snapshot artifact\n" ++
  "  claim     Claim rewards for a list of accounts\n" ++
  "  help      Print this message or the help of the given subcommand(s)\n\n" ++
  "Options:\n" ++
  "  -c, --config <CONFIG>    Settings file (defaults to the platform config dir)\n" ++
  "      --rpc-url <RPC_URL>  JSON-RPC endpoint, overrides settings and RPC_URL\n" ++
  "  -v, --verbose            Debug logging\n" ++
  "  -h, --help               Print help\n" ++
  "  -V, --version            Print version\n"

/-- How a run ends. -/
inductive Exit where
  | success
  | failure (cause : Failure)
  | usage

/-- The exit code. -/
def Exit.code : Exit → UInt32
  | .success => 0
  | .failure _ => 1
  | .usage => 2

variable {m : Type → Type} [Monad m]

/-- The line for an account. -/
def outcomeLine (line : String) (outcome : Claim.Outcome) : String :=
  line ++ "\t" ++ outcome.text ++ "\n"

/-- Makes a snapshot and prints its totals. -/
def runSnapshot (host : Host m) (c : Config) : ExceptT Failure m Unit := do
  let plan ← c.snapshotPlan host.files
  let summary ← plan.run host
  host.print (summary.text ++ "\n")

/-- Makes claims, printing a line for each account, and then the report. -/
def runClaim (host : Host m) (c : Config) (inputs : ClaimInputs) : ExceptT Failure m Unit := do
  let plan ← c.claimPlan host.files host.environment inputs
  let outcomes ← plan.run host fun line outcome => host.print (outcomeLine line outcome)
  host.print ((Claim.Report.ofOutcomes outcomes).text ++ "\n")

namespace Invocation

/-- The configuration for a command line: from its settings file, then the environment, then what was given. -/
def config (host : Host m) (i : Invocation) : ExceptT Failure m Config := do
  let settings ← attempt .settings (Settings.start host.files host.environment programName i.globals.config)
  let config ← ExceptT.lift (settings.config.override host.environment)
  return i.apply config

/-- Carries out a command line. -/
def perform (host : Host m) (i : Invocation) : ExceptT Failure m Unit := do
  let config ← i.config host
  match i.action with
  | .snapshot _ => runSnapshot host config
  | .claim flags => runClaim host config flags.inputs

end Invocation

/-- Runs the program with the given arguments. -/
def run (host : Host m) (arguments : List String) : m Exit := do
  match Invocation.ofArguments arguments with
  | .error .usage => return .usage
  | .error .help => host.print helpText; return .success
  | .error .version => host.print (programName ++ " " ++ version ++ "\n"); return .success
  | .ok invocation =>
    match ← (invocation.perform host).run with
    | .ok () => return .success
    | .error cause => return .failure cause

end Allotment.Command
