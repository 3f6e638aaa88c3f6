import Allotment.Proofs.Plan.Snapshot
import Allotment.Proofs.Snapshot.Build

/-!
# From a configuration to a snapshot file

A table is what the configuration itself lists, and behind it what the file lists (`Points.Sources`). A planned
snapshot that was made is read back from its file: it is the snapshot of these tables with the counts that were
collected, it has the totals that were reported, and what the configuration lists counts before what the files list
(`Config.snapshot_readable`).
-/

namespace Allotment

open Points

/-! ## Where the entries of a table come from -/

/-- The entries of a table: `own` are those in the configuration, `others` those in the file, if one is named. -/
structure Points.Sources (tree : FileTree) (name : String) (members : List (String × Json)) (file : Option Path)
    (own others : List Points.Entry) : Prop where
  own : Table.ofJson name members = .ok ⟨name, own⟩
  others : match file with
    | none => others = []
    | some path => (Table.loadCsv FileTree.files path tree).1 = .ok ⟨path.text, others⟩

namespace Points.Table

theorem name_of_collect {α : Type} {name : String} {read : α → Except Error (Option Points.Entry)} {sources : List α}
    {table : Table} (collected : collect name read sources = .ok table) : table.name = name := by
  obtain ⟨entries, -, made⟩ := bind_eq_ok_iff.mp collected
  cases made
  rfl

theorem name_of_ofCsv {name text : String} {table : Table} (read : ofCsv name text = .ok table) :
    table.name = name := by
  unfold ofCsv at read
  split at read
  case h_1 =>
    cases read
    rfl
  case h_2 =>
    simp only [bind_eq_ok_iff] at read
    obtain ⟨_, -, _, -, made⟩ := read
    cases made
    rfl

section Corresponding

variable {m n : Type → Type} [Monad m] [Monad n] {c : Claim.Correspondence m n} {files : Files m} {files' : Files n}

theorem loadCsv_rel (corresponding : Files.Corresponding c files files') (path : Path) :
    c.rel (loadCsv files path) (loadCsv files' path) := by
  refine c.rel_bind (corresponding.readText path) fun outcome => ?_
  cases outcome with
  | ok text => exact c.rel_pure _
  | error cause => exact c.rel_pure _

end Corresponding

/-- Reading a table changes no file. -/
theorem loadCsv_eq (path : Path) (tree : FileTree) :
    loadCsv FileTree.files path tree =
      (match (tree.read path).bind Files.textOf with
        | .ok text => ofCsv path.text text
        | .error cause => .error (.unreadable path cause), tree) := by
  simp only [loadCsv, bind, StateT.bind, FileTree.readText_eq]
  cases (tree.read path).bind Files.textOf with
  | ok text => rfl
  | error cause => rfl

theorem name_of_loadCsv {path : Path} {tree : FileTree} {table : Table}
    (loaded : (loadCsv FileTree.files path tree).1 = .ok table) : table.name = path.text := by
  rw [loadCsv_eq] at loaded
  cases read : (tree.read path).bind Files.textOf with
  | ok text =>
    rw [read] at loaded
    exact name_of_ofCsv loaded
  | error cause =>
    rw [read] at loaded
    cases loaded

theorem loadCsv_host {σ : Type} (answer : JsonRpc.Transport (StateM σ)) (path : Path) :
    loadCsv (World.host answer).files path = World.onFiles (loadCsv FileTree.files path) :=
  loadCsv_rel (World.files_host answer) path

end Points.Table

/-! ## What comes first -/

/-- Wallets in the order of their sources: those that the configuration lists in the first table, those that are in
that table by its file only, and then likewise those of the second table that are not in the first. -/
def Points.InOrder (dev devFile node nodeFile : List Points.Entry) (wallets : List Address) : Prop :=
  ∃ first second third fourth, wallets = first ++ second ++ third ++ fourth ∧
    (∀ a ∈ first, a ∈ dev.map (·.account)) ∧
    (∀ a ∈ second, a ∈ devFile.map (·.account) ∧ a ∉ dev.map (·.account)) ∧
    (∀ a ∈ third, a ∈ node.map (·.account) ∧ a ∉ (dev ++ devFile).map (·.account)) ∧
    ∀ a ∈ fourth, a ∈ nodeFile.map (·.account) ∧ a ∉ (dev ++ devFile ++ node).map (·.account)

/-- What follows keeps nothing that has been kept before. -/
theorem eraseDups_append_eq {α : Type} [DecidableEq α] (xs ys : List α) :
    ∃ later, (xs ++ ys).eraseDups = xs.eraseDups ++ later ∧ ∀ a ∈ later, a ∈ ys ∧ a ∉ xs := by
  refine ⟨(ys.removeAll xs).eraseDups, List.eraseDups_append, fun a mem => ?_⟩
  have mem : a ∈ ys.removeAll xs := List.mem_eraseDups.mp mem
  simpa [List.removeAll] using mem

theorem Snapshot.inOrder_build (devName nodeName : String) (dev devFile node nodeFile : List Points.Entry)
    (bounds : BoundCounts) :
    InOrder dev devFile node nodeFile
      (Snapshot.build ⟨devName, dev ++ devFile⟩ ⟨nodeName, node ++ nodeFile⟩ bounds).wallets := by
  obtain ⟨second, devParts, secondOnly⟩ :=
    eraseDups_append_eq (dev.map (·.account)) (devFile.map (·.account))
  obtain ⟨third, nodeParts, thirdOnly⟩ :=
    eraseDups_append_eq ((dev ++ devFile).map (·.account)) (node.map (·.account))
  obtain ⟨fourth, allParts, fourthOnly⟩ :=
    eraseDups_append_eq ((dev ++ devFile ++ node).map (·.account)) (nodeFile.map (·.account))
  have parts : candidates ⟨devName, dev ++ devFile⟩ ⟨nodeName, node ++ nodeFile⟩ =
      (dev.map (·.account)).eraseDups ++ second ++ third ++ fourth := by
    rw [← devParts, ← List.map_append, ← nodeParts, ← List.map_append, ← allParts, ← List.map_append, candidates,
      Table.accounts, Table.accounts, ← List.map_append, List.append_assoc (dev ++ devFile)]
  rw [wallets_build, parts, List.filter_append, List.filter_append, List.filter_append]
  exact ⟨_, _, _, _, rfl, fun a mem => List.mem_eraseDups.mp (List.mem_of_mem_filter mem),
    fun a mem => secondOnly a (List.mem_of_mem_filter mem), fun a mem => thirdOnly a (List.mem_of_mem_filter mem),
    fun a mem => fourthOnly a (List.mem_of_mem_filter mem)⟩

/-- The first of the entries that are listed first counts. -/
theorem Points.Table.points_append {name : String} {own others : List Points.Entry} {account : Address}
    {entry : Points.Entry} (first : own.find? (·.account = account) = some entry) :
    points ⟨name, own ++ others⟩ account = entry.points := by
  rw [points, get?, List.find?_append, first]
  rfl

variable {σ : Type} {answer : JsonRpc.Transport (StateM σ)}

/-! ## Planning -/

namespace Config

/-- A table was planned from the configuration and the file; the world stays as it is. -/
theorem pointsTable_eq_ok {name : String} {members : List (String × Json)} {file : Option Path} {table : Table}
    {world world' : World σ}
    (planned : pointsTable (World.host answer).files name members file world = (.ok table, world')) :
    world' = world ∧
      ∃ own others, Sources world.files name members file own others ∧ table = ⟨name, own ++ others⟩ := by
  unfold pointsTable at planned
  obtain ⟨⟨called, own⟩, _, made, goesOn⟩ := exceptT_bind_eq_ok planned
  obtain ⟨listed, rfl⟩ := Prod.mk.inj (attempt_eq_ok made)
  obtain rfl : called = name := Table.name_of_collect listed
  cases file with
  | none =>
    cases goesOn
    exact ⟨rfl, own, [], ⟨listed, rfl⟩, by rw [List.append_nil]⟩
  | some path =>
    obtain ⟨⟨called', others⟩, _, attempted, ends⟩ := exceptT_bind_eq_ok goesOn
    have loaded := attempt_eq_ok attempted
    rw [Table.loadCsv_host, World.onFiles_apply] at loaded
    obtain ⟨read, rfl⟩ := Prod.mk.inj loaded
    obtain rfl : called' = path.text := Table.name_of_loadCsv read
    cases ends
    refine ⟨?_, own, others, ⟨listed, read⟩, rfl⟩
    rw [Table.loadCsv_eq]

/-- A snapshot was planned from two tables; the world stays as it is. -/
theorem snapshotPlan_eq_ok {c : Config} {plan : SnapshotPlan} {world world' : World σ}
    (planned : c.snapshotPlan (World.host answer).files world = (.ok plan, world')) :
    world' = world ∧ plan.output = c.snapshot.output ∧
      (∃ own others,
        Sources world.files "snapshot.dev_points" c.snapshot.devPoints c.snapshot.devPointsFile own others ∧
        plan.dev = ⟨"snapshot.dev_points", own ++ others⟩) ∧
      ∃ own others,
        Sources world.files "snapshot.node_points" c.snapshot.nodePoints c.snapshot.nodePointsFile own others ∧
        plan.node = ⟨"snapshot.node_points", own ++ others⟩ := by
  unfold snapshotPlan at planned
  obtain ⟨dev, _, devPlanned, afterDev⟩ := exceptT_bind_eq_ok planned
  obtain ⟨node, _, nodePlanned, afterNode⟩ := exceptT_bind_eq_ok afterDev
  obtain ⟨nodeRewards, _, addressRead, afterAddress⟩ := exceptT_bind_eq_ok afterNode
  obtain ⟨ledger, _, ledgerPlanned, ends⟩ := exceptT_bind_eq_ok afterAddress
  obtain ⟨rfl, devSources⟩ := pointsTable_eq_ok devPlanned
  obtain ⟨rfl, nodeSources⟩ := pointsTable_eq_ok nodePlanned
  obtain ⟨-, rfl⟩ := Prod.mk.inj (attempt_eq_ok addressRead)
  obtain ⟨-, rfl⟩ := Prod.mk.inj (attempt_eq_ok ledgerPlanned)
  cases ends
  exact ⟨rfl, rfl, devSources, nodeSources⟩

/-- **A planned snapshot that was made is read back from its file.** It is the snapshot of what the configuration lists
and then what the files list, with the counts that were collected; it has the totals that were reported, and the check
finds nothing wrong with it. What the configuration says of an account counts, whatever a file says of it, and an
account that the configuration lists comes before those that are only in the file of the same table. -/
theorem snapshot_readable {c : Config} {plan : SnapshotPlan} {summary : Summary} {world planning made : World σ}
    (planned : c.snapshotPlan (World.host answer).files world = (.ok plan, planning))
    (run : plan.run (World.host answer) planning = (.ok summary, made)) :
    ∃ dev devFile node nodeFile : List Points.Entry,
      Sources world.files "snapshot.dev_points" c.snapshot.devPoints c.snapshot.devPointsFile dev devFile ∧
      Sources world.files "snapshot.node_points" c.snapshot.nodePoints c.snapshot.nodePointsFile node nodeFile ∧
      let devTable : Table := ⟨"snapshot.dev_points", dev ++ devFile⟩
      let nodeTable : Table := ⟨"snapshot.node_points", node ++ nodeFile⟩
      let bounds := ((plan.registry (World.host answer).transport).collect devTable nodeTable world).1
      let s := Snapshot.build devTable nodeTable bounds
      Snapshot.read (World.host answer).files c.snapshot.output made = (.ok s, made) ∧
      s.validate = .ok () ∧ summary = s.summary ∧
      (∀ r ∈ s.raw,
        (∀ entry, dev.find? (·.account = r.account) = some entry → r.devPoints = entry.points) ∧
        (∀ entry, node.find? (·.account = r.account) = some entry → r.nodePoints = entry.points)) ∧
      InOrder dev devFile node nodeFile s.wallets := by
  obtain ⟨rfl, output, ⟨dev, devFile, devSources, devTable⟩, node, nodeFile, nodeSources, nodeTable⟩ :=
    snapshotPlan_eq_ok planned
  obtain ⟨read, totals⟩ := SnapshotPlan.read_of_run run
  refine ⟨dev, devFile, node, nodeFile, devSources, nodeSources, ?_⟩
  intro devTable' nodeTable' bounds s
  rw [devTable, nodeTable, NodeRegistry.snapshot_eq, output] at read
  rw [devTable, nodeTable, NodeRegistry.snapshot_eq] at totals
  have valid : s.validate = .ok () := Snapshot.validate_build devTable' nodeTable' bounds
  refine ⟨?_, valid, totals, ?_, Snapshot.inOrder_build _ _ dev devFile node nodeFile bounds⟩
  · rw [read, Snapshot.ofFileText_fileText, valid]
  · intro r mem
    have row : r = Record.of devTable' nodeTable' bounds r.account := Snapshot.eq_of_mem_build mem
    constructor
    · intro entry first
      rw [row]
      exact Table.points_append first
    · intro entry first
      rw [row]
      exact Table.points_append first

/-- A configuration that lists one account and names a file of more. -/
def listing : Config :=
  { standard with
    snapshot := { SnapshotSettings.standard with
      nodeRewardsAddress := some "0x0000000000000000000000000000000000000009"
      devPoints := [("0x0000000000000000000000000000000000000001", .ofNat 5)]
      devPointsFile := some ⟨"dev.csv"⟩
      output := ⟨"out/snapshot.json"⟩ } }

/-- A world with that file, which also has other points for the account that the configuration lists. -/
def listed : World Unit where
  files := ⟨[(["dev.csv"], .file
    "0x0000000000000000000000000000000000000002,7\n0x0000000000000000000000000000000000000001,9\n".toUTF8)], []⟩
  environment := []
  output := ""
  network := ()

/-- No endpoint is reached, and the directory of the snapshot has to be made. -/
theorem snapshot_readable_listed :
    ∃ plan planning made s,
      listing.snapshotPlan (World.host World.unreachable).files listed = (.ok plan, planning) ∧
      plan.run (World.host World.unreachable) planning = (.ok ⟨2, 12, 0⟩, made) ∧
      Snapshot.read (World.host World.unreachable).files ⟨"out/snapshot.json"⟩ made = (.ok s, made) ∧
      s.summary = ⟨2, 12, 0⟩ := by
  have succeeds : ((listing.snapshotPlan (World.host World.unreachable).files >>= fun plan =>
      plan.run (World.host World.unreachable)) listed).1.toOption = some ⟨2, 12, 0⟩ := by decide +kernel
  cases whole : (listing.snapshotPlan (World.host World.unreachable).files >>= fun plan =>
      plan.run (World.host World.unreachable)) listed with
  | mk outcome made =>
    rw [whole] at succeeds
    cases outcome with
    | error cause => cases succeeds
    | ok summary =>
      obtain rfl : summary = ⟨2, 12, 0⟩ := Option.some.inj succeeds
      obtain ⟨plan, planning, planned, run⟩ := exceptT_bind_eq_ok whole
      obtain ⟨_, _, _, _, _, _, read, _, totals, _⟩ := snapshot_readable planned run
      exact ⟨plan, planning, made, _, planned, run, read, totals.symm⟩

end Config

end Allotment
