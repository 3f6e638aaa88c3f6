import Allotment.Command.Options
import Allotment.Plan.Claim

/-!
# The command line

A command line names one of two commands. Options that both commands have may stand on either side of the command's
name; of two values the one behind it counts. What is given on the command line takes precedence over settings, even
when it is blank.
-/

namespace Allotment.Command

/-- What can be given with every command. -/
structure Globals where
  config : Option Path
  rpcUrl : Option String
  verbose : Bool
  deriving DecidableEq

/-- What can be given for a snapshot. -/
structure SnapshotFlags where
  output : Option Path
  noOnchain : Bool
  deriving DecidableEq

/-- What can be given for claims. -/
structure ClaimFlags where
  accounts : List String
  accountsFile : Option Path
  fromSnapshot : Option Path
  period : Option String
  throttleMs : Option UInt64
  dryRun : Bool
  deriving DecidableEq

/-- A command with what was given for it. -/
inductive Action where
  | snapshot (flags : SnapshotFlags)
  | claim (flags : ClaimFlags)
  deriving DecidableEq

/-- A whole command line. -/
structure Invocation where
  globals : Globals
  action : Action
  deriving DecidableEq

/-! ## Options -/

/-- A path as a value, which must not be empty. -/
def readPath? (text : String) : Option Path :=
  if text.isEmpty then none else some ⟨text⟩

/-- The option that asks for help. -/
def helpSwitch : Switch σ := ⟨"help", some 'h', .finish .help⟩

/-- The option that asks for the version. -/
def versionSwitch : Switch σ := ⟨"version", some 'V', .finish .version⟩

namespace Globals

/-- Nothing is given. -/
def none : Globals := ⟨.none, .none, false⟩

/-- The options of every command. -/
def switches : List (Switch Globals) := [
  ⟨"config", some 'c', .take false fun text => some fun g => { g with config := some ⟨text⟩ }⟩,
  ⟨"rpc-url", .none, .take false fun text => some fun g => { g with rpcUrl := some text }⟩,
  ⟨"verbose", some 'v', .mark fun g => { g with verbose := true }⟩]

/-- The configuration with what was given in the place of the settings. -/
def apply (g : Globals) (c : Config) : Config :=
  { c with ledger.endpoint := g.rpcUrl.getD c.ledger.endpoint }

end Globals

namespace SnapshotFlags

/-- Nothing is given. -/
def none : SnapshotFlags := ⟨.none, false⟩

/-- The options for a snapshot. -/
def switches : List (Switch SnapshotFlags) := [
  ⟨"output", some 'o', .take false fun text => (readPath? text).map fun path f => { f with output := some path }⟩,
  ⟨"no-onchain", .none, .mark fun f => { f with noOnchain := true }⟩]

/-- The configuration with what was given in the place of the settings. -/
def apply (f : SnapshotFlags) (c : Config) : Config :=
  { c with
    snapshot.output := f.output.getD c.snapshot.output
    snapshot.onchainEnrichment := c.snapshot.onchainEnrichment && !f.noOnchain }

end SnapshotFlags

namespace ClaimFlags

/-- Nothing is given. -/
def none : ClaimFlags := ⟨[], .none, .none, .none, .none, false⟩

/-- The options for claims. -/
def switches : List (Switch ClaimFlags) := [
  ⟨"account", some 'a', .take true fun text => some fun f => { f with accounts := f.accounts ++ [text] }⟩,
  ⟨"accounts-file", .none,
    .take false fun text => (readPath? text).map fun path f => { f with accountsFile := some path }⟩,
  ⟨"from-snapshot", .none,
    .take false fun text => (readPath? text).map fun path f => { f with fromSnapshot := some path }⟩,
  ⟨"period", some 'p', .take false fun text => some fun f => { f with period := some text }⟩,
  ⟨"throttle-ms", .none,
    .take false fun text => (Text.readUInt64? text).map fun ms f => { f with throttleMs := some ms }⟩,
  ⟨"dry-run", .none, .mark fun f => { f with dryRun := true }⟩]

/-- The configuration with what was given in the place of the settings. -/
def apply (f : ClaimFlags) (c : Config) : Config :=
  { c with
    claim.accountsFile := f.accountsFile.or c.claim.accountsFile
    claim.period := f.period.getD c.claim.period
    claim.throttleMs := f.throttleMs.getD c.claim.throttleMs }

/-- What was given besides the configuration. -/
def inputs (f : ClaimFlags) : ClaimInputs := ⟨f.accounts, f.fromSnapshot, f.dryRun⟩

end ClaimFlags

/-! ## Reading -/

/-- The options behind the name of a command that has options of its own. -/
def switchesBehind (switches : List (Switch σ)) : List (Switch (Globals × σ)) :=
  helpSwitch :: Globals.switches.map (·.over fun change (g, s) => (change g, s)) ++
    switches.map (·.over fun change (g, s) => (g, change s))

/-- Reads what is behind the name of a command, where there are options only. -/
def readBehind (switches : List (Switch σ)) (record : Globals × σ) (texts : List String) :
    Except Ending (Globals × σ) := do
  match ← readOptions (switchesBehind switches) record texts with
  | (record, []) => return record
  | (_, _ :: _) => throw .usage

/-- What the words behind a request for help in words come to: the name of a command at most. -/
def helpFor : List String → Ending
  | [] => .help
  | [name] => if name ∈ ["snapshot", "claim", "help"] then .help else .usage
  | _ :: _ :: _ => .usage

/-- Reads a command line. -/
def Invocation.ofArguments (texts : List String) : Except Ending Invocation := do
  match ← readOptions (helpSwitch :: versionSwitch :: Globals.switches) Globals.none texts with
  | (globals, "snapshot" :: texts) =>
    let (globals, flags) ← readBehind SnapshotFlags.switches (globals, SnapshotFlags.none) texts
    return ⟨globals, .snapshot flags⟩
  | (globals, "claim" :: texts) =>
    let (globals, flags) ← readBehind ClaimFlags.switches (globals, ClaimFlags.none) texts
    return ⟨globals, .claim flags⟩
  | (_, "help" :: texts) => throw (helpFor texts)
  | _ => throw .usage

namespace Invocation

/-- The configuration with what was given in the place of the settings. -/
def apply (i : Invocation) (c : Config) : Config :=
  match i.action with
  | .snapshot flags => flags.apply (i.globals.apply c)
  | .claim flags => flags.apply (i.globals.apply c)

end Invocation

end Allotment.Command
