import Allotment.Proofs.Snapshot.Rows
import Mathlib.Algebra.BigOperators.Group.Finset.Basic
import Mathlib.Algebra.Order.Ring.Nat

/-!
# What a snapshot adds up to

The totals of a snapshot are those of its tables: every account that is in a table adds the points of its first entry,
once, to the total of that table and nothing to the other (`Snapshot.summary_build`). Rows that are left out would have
added nothing, and a column names no account twice, so that it does not matter which of the accounts it names
(`Snapshot.total_points`). With fewer than 2 ^ 64 entries no addition overflows 128 bits (`Snapshot.total?_eq_some`).
-/

namespace Allotment

open Points

namespace Snapshot

/-! ## Sums of amounts -/

/-- A sum in the width of its parts; none if it has no room there. -/
def add? {width : Nat} (x y : BitVec width) : Option (BitVec width) :=
  if x.uaddOverflow y then none else some (x + y)

/-- The sum of amounts added one after the other in 128 bits; none if one of the additions overflows. -/
def total? (amounts : List UInt64) : Option (BitVec 128) :=
  amounts.foldlM (fun sum amount => add? sum (amount.toBitVec.setWidth 128)) 0

theorem total_eq_sum (amounts : List UInt64) : total amounts = (amounts.map UInt64.toNat).sum := by
  induction amounts with
  | nil => rfl
  | cons amount amounts ih =>
    rw [List.map_cons, List.sum_cons, ← ih]
    rfl

theorem total_le (amounts : List UInt64) : total amounts ≤ amounts.length * (2 ^ 64 - 1) := by
  induction amounts with
  | nil => exact Nat.zero_le _
  | cons amount amounts ih =>
    have := amount.toNat_lt
    have step : total (amount :: amounts) = amount.toNat + total amounts := rfl
    rw [step, List.length_cons, Nat.succ_mul]
    omega

/-- Amounts are added to a sum without overflow if the whole has room in 128 bits. -/
theorem foldlM_add?_eq_some {amounts : List UInt64} {start : BitVec 128}
    (fits : start.toNat + total amounts < 2 ^ 128) :
    ∃ sum, amounts.foldlM (fun sum amount => add? sum (amount.toBitVec.setWidth 128)) start = some sum ∧
      sum.toNat = start.toNat + total amounts := by
  induction amounts generalizing start with
  | nil => exact ⟨start, rfl, rfl⟩
  | cons amount amounts ih =>
    have step : total (amount :: amounts) = amount.toNat + total amounts := rfl
    have wide : (amount.toBitVec.setWidth 128).toNat = amount.toNat := by
      have := amount.toNat_lt
      rw [BitVec.toNat_setWidth, UInt64.toNat_toBitVec]
      omega
    have room : ¬ start.uaddOverflow (amount.toBitVec.setWidth 128) := by
      rw [BitVec.uaddOverflow, wide, decide_eq_true_iff]
      omega
    have added := BitVec.toNat_add_of_not_uaddOverflow room
    have left : (start + amount.toBitVec.setWidth 128).toNat + total amounts < 2 ^ 128 := by omega
    obtain ⟨sum, rest, value⟩ := ih left
    refine ⟨sum, ?_, by omega⟩
    rw [List.foldlM_cons, add?, if_neg room]
    exact rest

theorem total?_eq_some {amounts : List UInt64} (fits : total amounts < 2 ^ 128) :
    ∃ sum, total? amounts = some sum ∧ sum.toNat = total amounts := by
  have zero : (0 : BitVec 128).toNat + total amounts = total amounts := Nat.zero_add _
  obtain ⟨sum, added, value⟩ := foldlM_add?_eq_some (zero.trans_lt fits)
  exact ⟨sum, added, value.trans zero⟩

/-! ## Sums of points -/

/-- Whatever accounts are listed, each once and all that have points among them, they have the points of the table. -/
theorem total_points {table : Table} {accounts : List Address} (once : accounts.Nodup)
    (all : ∀ account, table.points account ≠ 0 → account ∈ accounts) :
    total (accounts.map table.points) = ∑ account ∈ table.accounts.toFinset, (table.points account).toNat := by
  have nothing {account : Address} {s : List Address} (within : table.points account ≠ 0 → account ∈ s)
      (absent : account ∉ s.toFinset) : (table.points account).toNat = 0 := by
    by_contra some
    exact absent (List.mem_toFinset.mpr (within fun none => some (by rw [none]; rfl)))
  rw [total_eq_sum, List.map_map, ← List.sum_toFinset _ once]
  exact Finset.sum_congr_of_eq_on_inter (fun account _ => nothing Table.mem_accounts_of_points)
    (fun account _ => nothing (all account)) fun _ _ _ => rfl

variable (dev node : Table) (bounds : BoundCounts)

/-- There are no more rows than entries. -/
theorem length_wallets_build_le :
    (build dev node bounds).wallets.length ≤ dev.entries.length + node.entries.length := by
  have accounts : (dev.accounts ++ node.accounts).length = dev.entries.length + node.entries.length := by
    simp [Table.accounts]
  rw [wallets_build, candidates_eq, ← accounts]
  exact Nat.le_trans (List.length_filter_le _ _) (length_firstAppearances_le _)

/-- As many amounts as there can be entries have room in 128 bits. -/
theorem total_lt {amounts : List UInt64} (few : amounts.length < UInt64.size) : total amounts < 2 ^ 128 := by
  have most : amounts.length * (2 ^ 64 - 1) ≤ (2 ^ 64 - 1) * (2 ^ 64 - 1) :=
    Nat.mul_le_mul_right _ (Nat.le_pred_of_lt few)
  exact Nat.lt_of_le_of_lt (Nat.le_trans (total_le amounts) most) (by decide)

/-- **No points are lost and none count twice.** The totals of a snapshot are the sums, over the accounts in a table, of
what the table has for the account; and with fewer than 2 ^ 64 entries in both tables they have room in 128 bits, where
no addition on the way to them overflows. -/
theorem summary_build (few : dev.entries.length + node.entries.length < UInt64.size) :
    let s := build dev node bounds
    s.summary.totalDev = ∑ account ∈ dev.accounts.toFinset, (dev.points account).toNat ∧
      s.summary.totalNode = ∑ account ∈ node.accounts.toFinset, (node.points account).toNat ∧
      s.summary.totalDev < 2 ^ 128 ∧ s.summary.totalNode < 2 ^ 128 ∧
      (∃ sum, total? s.devAmounts = some sum ∧ sum.toNat = s.summary.totalDev) ∧
      ∃ sum, total? s.nodeAmounts = some sum ∧ sum.toNat = s.summary.totalNode := by
  intro s
  have once : s.wallets.Nodup := nodup_wallets_build dev node bounds
  have length : s.wallets.length < UInt64.size := Nat.lt_of_le_of_lt (length_wallets_build_le dev node bounds) few
  have devFits : total s.devAmounts < 2 ^ 128 := total_lt (by rwa [devAmounts_build, List.length_map])
  have nodeFits : total s.nodeAmounts < 2 ^ 128 := total_lt (by rwa [nodeAmounts_build, List.length_map])
  refine ⟨?_, ?_, devFits, nodeFits, total?_eq_some devFits, total?_eq_some nodeFits⟩
  · show total s.devAmounts = _
    rw [devAmounts_build]
    exact total_points once fun account points => mem_wallets_build.mpr (carries_iff.mpr (.inl points))
  · show total s.nodeAmounts = _
    rw [nodeAmounts_build]
    exact total_points once fun account points => mem_wallets_build.mpr (carries_iff.mpr (.inr points))

/-- Two accounts have all the points there can be, one of them twice over, and one account has none. -/
theorem summary_build_largest :
    let largest : UInt64 := 0xffffffffffffffff
    let dev : Table := ⟨"dev", [⟨⟨.replicate 20 1⟩, largest⟩, ⟨⟨.replicate 20 2⟩, 0⟩, ⟨⟨.replicate 20 1⟩, largest⟩,
      ⟨⟨.replicate 20 3⟩, largest⟩]⟩
    let node : Table := ⟨"node", [⟨⟨.replicate 20 3⟩, 0⟩, ⟨⟨.replicate 20 4⟩, 9⟩, ⟨⟨.replicate 20 3⟩, 1⟩]⟩
    dev.entries.length + node.entries.length < UInt64.size ∧
      (build dev node .empty).summary.totalDev = 2 * 0xffffffffffffffff ∧
      (build dev node .empty).summary.totalNode = 9 := by
  intro largest dev node
  have few : dev.entries.length + node.entries.length < UInt64.size := by decide
  have ⟨totalDev, totalNode, _⟩ := summary_build dev node .empty few
  exact ⟨few, totalDev.trans (by decide +kernel), totalNode.trans (by decide +kernel)⟩

end Snapshot

end Allotment
