import Allotment.Points.Table
import Mathlib.Data.List.Nodup

/-!
# What a table answers

A table answers for an account with the points of the first entry for it. So of a table nothing matters but the first
entries of its accounts, and not even their order (`Table.get?_eq_iff_perm`): entries may change places as long as the
first one for each account stays the first, and later ones may come and go.
-/

namespace Allotment.Points

/-- The entries before which there is none for the same account. -/
def firsts : List Entry → List Entry
  | [] => []
  | entry :: entries => entry :: (firsts entries).filter (·.account ≠ entry.account)

/-- No two first entries are for one account. -/
theorem nodup_firsts (entries : List Entry) : ((firsts entries).map (·.account)).Nodup := by
  induction entries with
  | nil => exact List.nodup_nil
  | cons entry entries ih =>
    rw [firsts, List.map_cons, List.nodup_cons]
    refine ⟨fun mem => ?_, (List.filter_sublist.map _).nodup ih⟩
    obtain ⟨other, kept, same⟩ := List.mem_map.mp mem
    exact of_decide_eq_true (List.mem_filter.mp kept).2 same

namespace Table

theorem get?_cons (name : String) (entry : Entry) (entries : List Entry) (account : Address) :
    get? ⟨name, entry :: entries⟩ account =
      if entry.account = account then some entry.points else get? ⟨name, entries⟩ account := by
  unfold get?
  by_cases here : entry.account = account <;> simp [here]

theorem mem_accounts_of_get? {table : Table} {account : Address} {points : UInt64}
    (found : table.get? account = some points) : account ∈ table.accounts := by
  obtain ⟨entry, first, -⟩ := Option.map_eq_some_iff.mp found
  have same : entry.account = account := by simpa using List.find?_some first
  exact List.mem_map.mpr ⟨entry, List.mem_of_find?_eq_some first, same⟩

/-- Only accounts in the table have points. -/
theorem mem_accounts_of_points {table : Table} {account : Address} (some : table.points account ≠ 0) :
    account ∈ table.accounts := by
  cases found : table.get? account with
  | some points => exact mem_accounts_of_get? found
  | none => exact absurd (by rw [points, found]; rfl) some

/-- What is looked up is a first entry. -/
theorem mem_firsts_iff {table : Table} {entry : Entry} :
    entry ∈ firsts table.entries ↔ table.get? entry.account = some entry.points := by
  obtain ⟨name, entries⟩ := table
  induction entries with
  | nil => exact iff_of_false List.not_mem_nil nofun
  | cons first entries ih =>
    rw [firsts, List.mem_cons, List.mem_filter, ih, get?_cons, decide_eq_true_iff]
    by_cases here : first.account = entry.account
    · rw [if_pos here, Option.some.injEq]
      constructor
      · rintro (rfl | ⟨-, other⟩)
        · rfl
        · exact absurd here.symm other
      · intro same
        cases entry
        cases here
        cases same
        exact .inl rfl
    · rw [if_neg here]
      constructor
      · rintro (rfl | ⟨found, -⟩)
        · exact absurd rfl here
        · exact found
      · exact fun found => .inr ⟨found, Ne.symm here⟩

/-- **Two tables answer alike just if their first entries are the same in some order.** -/
theorem get?_eq_iff_perm {table table' : Table} :
    (∀ account, table'.get? account = table.get? account) ↔ (firsts table'.entries).Perm (firsts table.entries) := by
  rw [List.perm_ext_iff_of_nodup (.of_map _ (nodup_firsts _)) (.of_map _ (nodup_firsts _))]
  constructor
  · intro alike entry
    rw [mem_firsts_iff, mem_firsts_iff, alike]
  · intro alike account
    refine Option.ext fun points => ?_
    have entry := alike ⟨account, points⟩
    rwa [mem_firsts_iff, mem_firsts_iff] at entry

/-- Where no account is repeated, every entry counts. -/
theorem points_of_mem {name : String} {entries : List Entry} (once : (entries.map (·.account)).Nodup) {entry : Entry}
    (mem : entry ∈ entries) : points ⟨name, entries⟩ entry.account = entry.points := by
  have found : get? ⟨name, entries⟩ entry.account = some entry.points := by
    induction entries with
    | nil => cases mem
    | cons first entries ih =>
      rw [get?_cons]
      rw [List.map_cons, List.nodup_cons] at once
      rcases List.mem_cons.mp mem with rfl | mem
      · exact if_pos rfl
      · have other : first.account ≠ entry.account := fun same => once.1 (same ▸ List.mem_map_of_mem mem)
        rw [if_neg other, ih once.2 mem]
  rw [points, found]
  rfl

end Table

end Allotment.Points
