import Allotment.Host.World
import Allotment.Main
import Allotment.Proofs.Snapshot.Build
import Allotment.Proofs.Claim.Session
import Allotment.Proofs.Claim.Journal
import Allotment.Proofs.Claim.DryRun
import Allotment.Proofs.Claim.Nonce
import Allotment.Proofs.Claim.Deletion
import Allotment.Proofs.Bytes.Hex
import Allotment.Proofs.Bytes.Minimal
import Allotment.Proofs.Ledger.Rlp
import Allotment.Proofs.Ledger.Envelope
import Allotment.Proofs.Json.Tokens
import Allotment.Proofs.Json.Written
import Allotment.Proofs.Ledger.Signing
import Allotment.Proofs.Address
import Allotment.Proofs.Key.Source
import Allotment.Proofs.Text.Utf8
import Allotment.Proofs.Key.Spelling
import Allotment.Proofs.Files.Tree
import Allotment.Proofs.Json.Restoring
import Allotment.Proofs.Outcome
import Allotment.Proofs.Snapshot.Artifact
import Allotment.Proofs.Host.World
import Allotment.Proofs.Snapshot.Enrich
import Allotment.Proofs.Plan.Snapshot
import Allotment.Proofs.Plan.Sources
import Allotment.Proofs.Ledger.DryRun
import Allotment.Proofs.Host.Scene
import Allotment.Proofs.Plan.Endpoint
import Allotment.Proofs.Plan.Claim
import Allotment.Proofs.Command.Planning
import Allotment.Proofs.Command.Run
import Allotment.Proofs.Files.ReadOnly
import Allotment.Proofs.Plan.Ready
import Allotment.Proofs.Plan.Secrecy
import Allotment.Proofs.Files.Medium
import Allotment.Proofs.Snapshot.Atomic
import Allotment.Proofs.Snapshot.Bounds
import Allotment.Proofs.Entries
import Allotment.Proofs.Json.Parts
import Allotment.Proofs.Plan.Listed
import Allotment.Proofs.Address.Spelling
import Allotment.Proofs.Points.Csv
import Allotment.Proofs.Claim.Questions
import Allotment.Proofs.Claim.Rising
import Allotment.Proofs.Plan.Accounts
import Allotment.Proofs.Json.Nesting
import Allotment.Proofs.Json.Regular
import Allotment.Proofs.Settings.Text
import Allotment.Proofs.Files.Directories
import Allotment.Proofs.Files.Parent
import Allotment.Proofs.Files.Rooted
import Allotment.Proofs.Settings.Saved
import Allotment.Proofs.Settings.FirstUse
import Allotment.Proofs.Settings.Layers
import Allotment.Proofs.Command.Files
import Allotment.Proofs.Command.Layers
import Allotment.Proofs.Snapshot.Verdict
import Allotment.Proofs.Json.Plain
import Allotment.Proofs.Points.Entries
import Allotment.Proofs.Points.Members
import Allotment.Proofs.Text.Lines
import Allotment.Proofs.Claim.Lines
import Allotment.Proofs.Points.Listing
import Allotment.Proofs.Ledger.Abi
import Allotment.Proofs.Ledger.Contract
import Allotment.Proofs.Points.Lookup
import Allotment.Proofs.Snapshot.Rows
import Allotment.Proofs.Snapshot.Totals
import Allotment.Proofs.Snapshot.Rebuild
