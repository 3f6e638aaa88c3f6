import Allotment.Proofs.Address
import Allotment.Proofs.Points.Entries
import Allotment.Proofs.Snapshot.Rows

/-!
# A snapshot built from its own columns

The columns of a snapshot are tables again (`Points.Table.ofColumns`). Both name the accounts of the rows in their
order, each once, so that building from them finds the accounts as they are; and each account has in them what it had in
the tables before, so that none is left out. The same snapshot is built again (`Snapshot.build_ofColumns`), also where
the accounts went through their texts in between (`Snapshot.build_build`).
-/

namespace Allotment

open Points

namespace Points.Table

/-- The table of the accounts in one column with the points in another. -/
def ofColumns (name : String) (accounts : List Address) (amounts : List UInt64) : Table :=
  ⟨name, List.zipWith Entry.mk accounts amounts⟩

section Columns

variable (name : String) {accounts : List Address} (f : Address → UInt64)

theorem ofColumns_map : ofColumns name accounts (accounts.map f) = ⟨name, accounts.map fun a => ⟨a, f a⟩⟩ := by
  rw [ofColumns, List.zipWith_map_right, List.zipWith_self]

theorem accounts_ofColumns : (ofColumns name accounts (accounts.map f)).accounts = accounts := by
  rw [ofColumns_map, Table.accounts, List.map_map]
  exact List.map_id _

/-- An account that is named once has what stands beside it. -/
theorem points_ofColumns (once : accounts.Nodup) {account : Address} (mem : account ∈ accounts) :
    (ofColumns name accounts (accounts.map f)).points account = f account := by
  have named : ((accounts.map fun a => (⟨a, f a⟩ : Entry)).map (·.account)).Nodup := by
    rw [List.map_map]
    exact (List.map_id accounts).symm ▸ once
  rw [ofColumns_map]
  exact points_of_mem named (List.mem_map_of_mem mem)

end Columns

/-- Entries are read back from the texts of their accounts. -/
theorem ofPairs_texts (name : String) (entries : List Entry) :
    ofPairs name (entries.map fun entry => (entry.account.text, entry.points)) = .ok ⟨name, entries⟩ := by
  have reads (entry : Entry) : readEntry name entry.account.text entry.points = .ok (some entry) := by
    refine readEntry_gives_iff.mpr (.inr ⟨?_, entry.account, entry.account.parse_text, rfl⟩)
    by_contra blank
    have none := Address.parse?_of_isBlankText (by simpa using blank)
    rw [entry.account.parse?_text] at none
    cases none
  refine collect_eq_ok_iff.mpr ⟨entries.map some, ?_, by rw [List.filterMap_map]; exact congrArg _ List.filterMap_some.symm⟩
  rw [List.forall₂_map_left_iff, List.forall₂_map_right_iff, List.forall₂_same]
  exact fun entry _ => reads entry

/-- Columns with the texts of the accounts make the same table. -/
theorem ofPairs_columns (name : String) (accounts : List Address) (amounts : List UInt64) :
    ofPairs name ((accounts.map Address.text).zip amounts) = .ok (ofColumns name accounts amounts) := by
  have pairs : (accounts.map Address.text).zip amounts =
      (List.zipWith Entry.mk accounts amounts).map fun entry => (entry.account.text, entry.points) := by
    rw [List.zip_eq_zipWith, List.zipWith_map_left, List.map_zipWith]
  rw [pairs, ofPairs_texts, ofColumns]

end Points.Table

namespace Snapshot

/-- The tables that the columns of a snapshot are give the snapshot. -/
theorem build_ofColumns (dev node : Table) (bounds : BoundCounts) (devName nodeName : String) :
    let s := build dev node bounds
    build (.ofColumns devName s.wallets s.devAmounts) (.ofColumns nodeName s.wallets s.nodeAmounts) bounds = s := by
  intro s
  have once : s.wallets.Nodup := nodup_wallets_build dev node bounds
  rw [devAmounts_build, nodeAmounts_build]
  generalize devTable : Table.ofColumns devName s.wallets (s.wallets.map dev.points) = dev'
  generalize nodeTable : Table.ofColumns nodeName s.wallets (s.wallets.map node.points) = node'
  have devPoints : ∀ a ∈ s.wallets, dev'.points a = dev.points a := fun a mem =>
    devTable ▸ Table.points_ofColumns devName dev.points once mem
  have nodePoints : ∀ a ∈ s.wallets, node'.points a = node.points a := fun a mem =>
    nodeTable ▸ Table.points_ofColumns nodeName node.points once mem
  have named : candidates dev' node' = s.wallets := by
    rw [candidates_eq, ← devTable, ← nodeTable, Table.accounts_ofColumns, Table.accounts_ofColumns,
      firstAppearances_append_of_subset (List.Subset.refl _), firstAppearances_of_nodup once]
  have kept : s.wallets.filter (carries dev' node') = s.wallets := by
    refine List.filter_eq_self.mpr fun a mem => ?_
    rw [carries, devPoints a mem, nodePoints a mem]
    exact mem_wallets_build.mp mem
  have rows : s.wallets.map (Record.of dev' node' bounds) = s.wallets.map (Record.of dev node bounds) := by
    refine List.map_congr_left fun a mem => ?_
    rw [Record.of, Record.of, devPoints a mem, nodePoints a mem]
  calc build dev' node' bounds
      = ofRecords (((candidates dev' node').filter (carries dev' node')).map (Record.of dev' node' bounds)) :=
        build_eq dev' node' bounds
    _ = ofRecords (s.wallets.map (Record.of dev node bounds)) := by rw [named, kept, rows]
    _ = s := by rw [wallets_build, ← build_eq]

/-- **Building again changes nothing.** A snapshot is built again, row by row and in the same order, from the tables
that its own columns are, and likewise from tables that are read from the texts of its wallets with the amounts beside
them. -/
theorem build_build (dev node : Table) (bounds : BoundCounts) (devName nodeName : String) :
    let s := build dev node bounds
    build (.ofColumns devName s.wallets s.devAmounts) (.ofColumns nodeName s.wallets s.nodeAmounts) bounds = s ∧
      ∃ dev' node',
        Table.ofPairs devName ((s.wallets.map Address.text).zip s.devAmounts) = .ok dev' ∧
        Table.ofPairs nodeName ((s.wallets.map Address.text).zip s.nodeAmounts) = .ok node' ∧
        build dev' node' bounds = s := by
  have again := build_ofColumns dev node bounds devName nodeName
  exact ⟨again, _, _, Table.ofPairs_columns _ _ _, Table.ofPairs_columns _ _ _, again⟩

end Snapshot

end Allotment
