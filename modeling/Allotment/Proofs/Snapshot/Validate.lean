import Allotment.Snapshot.Basic
import Mathlib.Data.List.Nodup

/-!
# What the check of a snapshot finds

A snapshot that was made from records agrees with itself row by row, so the check has only repeated wallets to find
(`validate_ofRecords`). The check of the rows is taken with the wallets seen so far as an argument
(`checkRows_ofRecord`). No other snapshot passes: one that does is made from its own records (`validate_eq_ok_iff`).
-/

namespace Allotment.Snapshot

/-- The rows of a snapshot made from records are those the records stand for. -/
theorem rows_ofRecords (records : List Record) : (ofRecords records).rows = records.map Row.ofRecord := by
  induction records with
  | nil => rfl
  | cons r records ih =>
    simp only [rows, ofRecords, List.map_cons, List.zip_cons_cons, List.zipWith_cons_cons] at ih ⊢
    rw [ih]
    rfl

/-- Rows that records stand for pass the check just if no wallet is repeated or was seen before. -/
theorem checkRows_ofRecord (seen : List Address) (index : Nat) (records : List Record) :
    checkRows seen index ((records.map Row.ofRecord).zip records) = .ok () ↔
      (records.map (·.account)).Nodup ∧ ∀ r ∈ records, r.account ∉ seen := by
  induction records generalizing seen index with
  | nil => simp [checkRows]
  | cons r records ih =>
    simp only [List.map_cons, List.zip_cons_cons, checkRows, ne_eq, not_true_eq_false, if_false, List.nodup_cons,
      List.forall_mem_cons]
    by_cases h : r.account ∈ seen
    · simp [Row.ofRecord, h]
    · rw [if_neg (by simpa [Row.ofRecord] using h), ih]
      simp only [Row.ofRecord, List.mem_cons, not_or, List.mem_map, not_exists, not_and, h, not_false_eq_true,
        true_and]
      constructor
      · rintro ⟨hn, hs⟩
        exact ⟨⟨fun q hq => (hs q hq).1, hn⟩, fun q hq => (hs q hq).2⟩
      · rintro ⟨⟨hr, hn⟩, hs⟩
        exact ⟨hn, fun q hq => ⟨hr q hq, hs q hq⟩⟩

/-- **A snapshot made from records passes the check just if no two records are for one account.** -/
theorem validate_ofRecords (records : List Record) :
    (ofRecords records).validate = .ok () ↔ (records.map (·.account)).Nodup := by
  rw [validate, rows_ofRecords, if_neg (by simp [ofRecords])]
  have h := checkRows_ofRecord [] 0 records
  simp only [List.not_mem_nil, not_false_eq_true, implies_true, and_true] at h
  exact h

/-- Rows that pass the check are those that the records beside them stand for. -/
theorem eq_ofRecord_of_checkRows {seen : List Address} {index : Nat} {pairs : List (Row × Record)}
    (passed : checkRows seen index pairs = .ok ()) : ∀ p ∈ pairs, p.1 = Row.ofRecord p.2 := by
  induction pairs generalizing seen index with
  | nil => exact nofun
  | cons p rest ih =>
    rw [checkRows] at passed
    split at passed
    case isTrue => cases passed
    case isFalse same =>
      split at passed
      case isTrue => cases passed
      case isFalse => exact List.forall_mem_cons.mpr ⟨not_not.mp same, ih passed⟩

/-- Columns and records of one length are all alike as soon as rows and records are. -/
theorem eq_ofRecords {s : Snapshot} (dev : s.wallets.length = s.devAmounts.length)
    (node : s.wallets.length = s.nodeAmounts.length) (records : s.wallets.length = s.raw.length)
    (alike : ∀ p ∈ s.rows.zip s.raw, p.1 = Row.ofRecord p.2) : s = ofRecords s.raw := by
  have row (i : Nat) (inRange : i < s.raw.length) :
      (⟨s.wallets[i], s.devAmounts[i], s.nodeAmounts[i]⟩ : Row) = Row.ofRecord s.raw[i] := by
    refine alike (_, s.raw[i]) (List.mem_iff_getElem.mpr ⟨i, ?_, ?_⟩)
    · simp only [List.length_zip, rows, List.length_zipWith]
      omega
    · simp [rows]
  have wallets : s.wallets = s.raw.map (·.account) :=
    List.ext_getElem (by simpa using records) fun i _ inRange => by
      simpa [Row.ofRecord] using congrArg Row.wallet (row i (by simpa using inRange))
  have devAmounts : s.devAmounts = s.raw.map (·.devPoints) :=
    List.ext_getElem (by simp; omega) fun i _ inRange => by
      simpa [Row.ofRecord] using congrArg Row.dev (row i (by simpa using inRange))
  have nodeAmounts : s.nodeAmounts = s.raw.map (·.nodePoints) :=
    List.ext_getElem (by simp; omega) fun i _ inRange => by
      simpa [Row.ofRecord] using congrArg Row.node (row i (by simpa using inRange))
  calc s = ⟨s.wallets, s.devAmounts, s.nodeAmounts, s.raw⟩ := rfl
    _ = ofRecords s.raw := by rw [wallets, devAmounts, nodeAmounts, ofRecords]

/-- **A snapshot passes the check just if it is made from its records and no wallet is repeated.** -/
theorem validate_eq_ok_iff {s : Snapshot} : s.validate = .ok () ↔ s = ofRecords s.raw ∧ s.wallets.Nodup := by
  constructor
  · intro passed
    have made : s = ofRecords s.raw := by
      unfold validate at passed
      split at passed
      case isTrue => cases passed
      case isFalse aligned =>
        simp only [not_or, not_not] at aligned
        exact eq_ofRecords aligned.1 aligned.2.1 aligned.2.2 (eq_ofRecord_of_checkRows passed)
    refine ⟨made, ?_⟩
    rw [made] at passed ⊢
    exact (validate_ofRecords s.raw).mp passed
  · rintro ⟨made, once⟩
    rw [made] at once ⊢
    exact (validate_ofRecords s.raw).mpr once

end Allotment.Snapshot
