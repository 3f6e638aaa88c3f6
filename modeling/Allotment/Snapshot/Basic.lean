import Allotment.Address

/-!
# Contribution records and the allocation snapshot

A snapshot holds one record per account and, beside the records, the three columns that governance is handed. The
columns repeat what the records say; a snapshot that was read from a file may contradict itself, which `validate`
finds out.
-/

namespace Allotment

/-- What one account contributed. -/
structure Record where
  account : Address
  devPoints : UInt64
  nodePoints : UInt64
  boundNodes : UInt64
  deriving DecidableEq

/-- Whether a record carries any points. -/
def Record.hasPoints (r : Record) : Bool :=
  0 < r.devPoints || 0 < r.nodePoints

/-- The totals of a snapshot. -/
structure Summary where
  wallets : Nat
  totalDev : Nat
  totalNode : Nat
  deriving DecidableEq

/-- The line that reports the totals. -/
def Summary.text (s : Summary) : String :=
  "wallets=" ++ toString s.wallets ++ " total_dev=" ++ toString s.totalDev ++ " total_node=" ++ toString s.totalNode

/-- The allocation of points to accounts: three columns and the records they come from. -/
structure Snapshot where
  wallets : List Address
  devAmounts : List UInt64
  nodeAmounts : List UInt64
  raw : List Record
  deriving DecidableEq

namespace Snapshot

/-- How a snapshot contradicts itself. -/
inductive Fault where
  | misaligned (wallets dev node raw : Nat)
  | rowMismatch (index : Nat) (wallet : Address)
  | duplicateWallet (wallet : Address)
  deriving DecidableEq

/-- The wording of a contradiction. -/
def Fault.message : Fault → String
  | .misaligned wallets dev node raw =>
    "snapshot columns misaligned: wallets=" ++ toString wallets ++ ", devAmounts=" ++ toString dev ++
      ", nodeAmounts=" ++ toString node ++ ", raw=" ++ toString raw
  | .rowMismatch index wallet =>
    "snapshot row " ++ toString index ++ " disagrees with raw record for " ++ wallet.text
  | .duplicateWallet wallet => "duplicate wallet in snapshot: " ++ wallet.text

/-- The snapshot of the given records. -/
def ofRecords (records : List Record) : Snapshot where
  wallets := records.map (·.account)
  devAmounts := records.map (·.devPoints)
  nodeAmounts := records.map (·.nodePoints)
  raw := records

/-- The number of rows. -/
def size (s : Snapshot) : Nat := s.wallets.length

/-- The sum of amounts, which no width limits. -/
def total (amounts : List UInt64) : Nat :=
  amounts.foldr (fun amount sum => amount.toNat + sum) 0

/-- The totals of a snapshot. -/
def summary (s : Snapshot) : Summary where
  wallets := s.wallets.length
  totalDev := total s.devAmounts
  totalNode := total s.nodeAmounts

/-- One row of the columns. -/
structure Row where
  wallet : Address
  dev : UInt64
  node : UInt64
  deriving DecidableEq

/-- The row that a record stands for. -/
def Row.ofRecord (r : Record) : Row := ⟨r.account, r.devPoints, r.nodePoints⟩

/-- The rows of the columns, as many as the shortest has. -/
def rows (s : Snapshot) : List Row :=
  List.zipWith (fun wallet (dev, node) => ⟨wallet, dev, node⟩) s.wallets (s.devAmounts.zip s.nodeAmounts)

/-- Compares rows with records from row `index` on, `seen` being the wallets of the rows before. -/
def checkRows (seen : List Address) (index : Nat) : List (Row × Record) → Except Fault Unit
  | [] => .ok ()
  | (row, record) :: rest =>
    if row ≠ Row.ofRecord record then .error (.rowMismatch index row.wallet)
    else if row.wallet ∈ seen then .error (.duplicateWallet row.wallet)
    else checkRows (row.wallet :: seen) (index + 1) rest

/-- Checks that the columns and the records have one length and agree row by row, and that no wallet is repeated. -/
def validate (s : Snapshot) : Except Fault Unit :=
  if s.wallets.length ≠ s.devAmounts.length ∨ s.wallets.length ≠ s.nodeAmounts.length ∨
      s.wallets.length ≠ s.raw.length then
    .error (.misaligned s.wallets.length s.devAmounts.length s.nodeAmounts.length s.raw.length)
  else checkRows [] 0 (s.rows.zip s.raw)

end Snapshot

/-! ## JSON -/

open Json in
/-- A record as JSON; the count of bound nodes may be left out. -/
def Record.format : RecordFormat Record where
  name := "ContributionRecord"
  initial := ⟨⟨Vector.replicate 20 0⟩, 0, 0, 0⟩
  fields := [
    (Field.of "wallet" Address.decoder Address.toJson (·.account) fun a r => { r with account := a }).mandatory,
    (Field.of "devAmount" Decoder.uint64 Json.ofUInt64 (·.devPoints) fun n r => { r with devPoints := n }).mandatory,
    (Field.of "nodeAmount" Decoder.uint64 Json.ofUInt64 (·.nodePoints) fun n r => { r with nodePoints := n }).mandatory,
    Field.of "boundNodeCount" Decoder.uint64 Json.ofUInt64 (·.boundNodes) fun n r => { r with boundNodes := n }]

open Json in
/-- A snapshot as JSON. -/
def Snapshot.format : RecordFormat Snapshot where
  name := "AllocationSnapshot"
  initial := ⟨[], [], [], []⟩
  fields := [
    (Field.of "wallets" (Decoder.list Address.decoder) (fun as => .array (as.map Address.toJson)) (·.wallets)
      fun as s => { s with wallets := as }).mandatory,
    (Field.of "devAmounts" (Decoder.list Decoder.uint64) (fun ns => .array (ns.map Json.ofUInt64)) (·.devAmounts)
      fun ns s => { s with devAmounts := ns }).mandatory,
    (Field.of "nodeAmounts" (Decoder.list Decoder.uint64) (fun ns => .array (ns.map Json.ofUInt64)) (·.nodeAmounts)
      fun ns s => { s with nodeAmounts := ns }).mandatory,
    (Field.of "raw" (Decoder.list Record.format.decoder) (fun rs => .array (rs.map Record.format.write)) (·.raw)
      fun rs s => { s with raw := rs }).mandatory]

namespace Snapshot

/-- The text of a snapshot, one item a line. -/
def pretty (s : Snapshot) : String := (format.write s).pretty

end Snapshot

end Allotment
