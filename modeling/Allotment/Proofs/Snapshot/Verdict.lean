import Allotment.Proofs.Snapshot.Validate

/-!
# What the check of a snapshot says

A snapshot is looked at place by place, without the order in which the check goes over it:

* `AgreesAt`: the record at a place says what the three columns have there;
* `RepeatsAt`: the wallet at a place stands at an earlier one too;
* `Finds`: what is to be said of a snapshot is told by its lengths, or by the first place where something is wrong;
* `inspect?`: the check with the columns looked up at every place, which comes to nothing where a column ends too early.

The check of the rows stops at the first wrong one (`checkRows_eq_error_iff`), so the check as a whole says just what is
to be said, and no column ends too early (`validate_verdict`).
-/

namespace Allotment.Snapshot

/-! ## Places -/

/-- The three columns and the records have one length. -/
def Aligned (s : Snapshot) : Prop :=
  s.devAmounts.length = s.wallets.length ∧ s.nodeAmounts.length = s.wallets.length ∧ s.raw.length = s.wallets.length

/-- The record at a place says what the columns have there. -/
def AgreesAt (s : Snapshot) (i : Nat) : Prop :=
  ∃ record, s.raw[i]? = some record ∧ s.wallets[i]? = some record.account ∧
    s.devAmounts[i]? = some record.devPoints ∧ s.nodeAmounts[i]? = some record.nodePoints

/-- The wallet at a place stands at an earlier one too. -/
def RepeatsAt (s : Snapshot) (i : Nat) : Prop :=
  ∃ j < i, s.wallets[j]? = s.wallets[i]?

/-- Something is wrong with the record at a place. -/
def FaultyAt (s : Snapshot) (i : Nat) : Prop :=
  i < s.raw.length ∧ (¬s.AgreesAt i ∨ s.RepeatsAt i)

/-- The first place at which something is wrong. -/
def FirstFaultyAt (s : Snapshot) (i : Nat) : Prop :=
  s.FaultyAt i ∧ ∀ j < i, ¬s.FaultyAt j

/-- The fault of a snapshot: the lengths differ, or else it is that of the first place at which something is wrong,
where a record that does not agree goes before a wallet that is repeated. -/
inductive Finds (s : Snapshot) : Fault → Prop
  | misaligned : ¬s.Aligned →
    Finds s (.misaligned s.wallets.length s.devAmounts.length s.nodeAmounts.length s.raw.length)
  | rowMismatch {i : Nat} {wallet : Address} : s.Aligned → s.FirstFaultyAt i → s.wallets[i]? = some wallet →
    ¬s.AgreesAt i → Finds s (.rowMismatch i wallet)
  | duplicateWallet {i : Nat} {wallet : Address} : s.Aligned → s.FirstFaultyAt i → s.wallets[i]? = some wallet →
    s.AgreesAt i → Finds s (.duplicateWallet wallet)

/-! ## The check of the rows -/

section Rows

variable {seen : List Address} {index i : Nat} {pairs : List (Row × Record)} {p : Row × Record} {fault : Fault}

/-- Something is wrong with the row at a place, `seen` being wallets from before the rows. -/
def WrongAt (seen : List Address) (pairs : List (Row × Record)) (i : Nat) : Prop :=
  ∃ p, pairs[i]? = some p ∧
    (p.1 ≠ Row.ofRecord p.2 ∨ p.1.wallet ∈ seen ∨ p.1.wallet ∈ (pairs.take i).map (·.1.wallet))

/-- What is said of a row with which something is wrong. -/
def verdict (index : Nat) (p : Row × Record) : Fault :=
  if p.1 ≠ Row.ofRecord p.2 then .rowMismatch index p.1.wallet else .duplicateWallet p.1.wallet

theorem wrongAt_zero : WrongAt seen (p :: pairs) 0 ↔ p.1 ≠ Row.ofRecord p.2 ∨ p.1.wallet ∈ seen := by
  simp [WrongAt]

/-- Once a row is passed, its wallet is one from before. -/
theorem wrongAt_succ : WrongAt seen (p :: pairs) (i + 1) ↔ WrongAt (p.1.wallet :: seen) pairs i := by
  simp only [WrongAt, List.getElem?_cons_succ, List.take_succ_cons, List.map_cons, List.mem_cons, or_assoc,
    or_left_comm]

/-- A row is passed just if nothing is wrong with it. -/
theorem checkRows_cons :
    checkRows seen index (p :: pairs) =
      if p.1 ≠ Row.ofRecord p.2 ∨ p.1.wallet ∈ seen then .error (verdict index p)
      else checkRows (p.1.wallet :: seen) (index + 1) pairs := by
  rw [checkRows, verdict]
  by_cases agrees : p.1 = Row.ofRecord p.2
  · simp [agrees]
  · simp [agrees]

/-- **The check of the rows stops at the first one with which something is wrong.** -/
theorem checkRows_eq_error_iff :
    checkRows seen index pairs = .error fault ↔
      ∃ i p, pairs[i]? = some p ∧ WrongAt seen pairs i ∧ (∀ j < i, ¬WrongAt seen pairs j) ∧
        fault = verdict (index + i) p := by
  induction pairs generalizing seen index with
  | nil => simp [checkRows]
  | cons first rest ih =>
    rw [checkRows_cons]
    split
    case isTrue wrong =>
      constructor
      · rintro ⟨⟩
        exact ⟨0, first, rfl, wrongAt_zero.mpr wrong, fun j less => absurd less (Nat.not_lt_zero j), rfl⟩
      · rintro ⟨i, p, found, -, earlier, rfl⟩
        cases i with
        | zero =>
          cases found
          rfl
        | succ i => exact absurd (wrongAt_zero.mpr wrong) (earlier 0 (Nat.succ_pos i))
    case isFalse right =>
      rw [ih]
      constructor
      · rintro ⟨i, p, found, wrong, earlier, rfl⟩
        refine ⟨i + 1, p, found, wrongAt_succ.mpr wrong, fun j less => ?_, by rw [Nat.add_assoc, Nat.add_comm 1]⟩
        cases j with
        | zero => exact fun wrong => right (wrongAt_zero.mp wrong)
        | succ j => exact fun wrong => earlier j (Nat.lt_of_succ_lt_succ less) (wrongAt_succ.mp wrong)
      · rintro ⟨i, p, found, wrong, earlier, rfl⟩
        cases i with
        | zero => exact absurd (wrongAt_zero.mp wrong) right
        | succ i =>
          refine ⟨i, p, found, wrongAt_succ.mp wrong, fun j less wrong => ?_, by rw [Nat.add_assoc, Nat.add_comm 1]⟩
          exact earlier (j + 1) (Nat.succ_lt_succ less) (wrongAt_succ.mpr wrong)

end Rows

/-! ## Rows and places -/

variable {s : Snapshot} {i : Nat} {row : Row} {record : Record}

/-- A row stands beside a record where the columns have what the row says. -/
theorem getElem?_rows_zip :
    (s.rows.zip s.raw)[i]? = some (row, record) ↔
      s.raw[i]? = some record ∧ s.wallets[i]? = some row.wallet ∧ s.devAmounts[i]? = some row.dev ∧
        s.nodeAmounts[i]? = some row.node := by
  obtain ⟨wallet, dev, node⟩ := row
  simp only [rows, List.getElem?_zip_eq_some, List.getElem?_zipWith_eq_some, Prod.exists, Row.mk.injEq]
  constructor
  · rintro ⟨⟨_, _, _, found, ⟨foundDev, foundNode⟩, rfl, rfl, rfl⟩, foundRecord⟩
    exact ⟨foundRecord, found, foundDev, foundNode⟩
  · rintro ⟨foundRecord, found, foundDev, foundNode⟩
    exact ⟨⟨_, _, _, found, ⟨foundDev, foundNode⟩, rfl, rfl, rfl⟩, foundRecord⟩

/-- Where the lengths agree, every record has a row beside it. -/
theorem length_rows_zip (aligned : s.Aligned) : (s.rows.zip s.raw).length = s.raw.length := by
  obtain ⟨dev, node, records⟩ := aligned
  simp only [List.length_zip, rows, List.length_zipWith]
  omega

theorem exists_row (aligned : s.Aligned) (inRange : i < s.raw.length) :
    ∃ row record, (s.rows.zip s.raw)[i]? = some (row, record) := by
  rw [← length_rows_zip aligned] at inRange
  exact ⟨_, _, List.getElem?_eq_getElem inRange⟩

theorem agreesAt_iff (found : (s.rows.zip s.raw)[i]? = some (row, record)) :
    s.AgreesAt i ↔ row = Row.ofRecord record := by
  obtain ⟨foundRecord, found, foundDev, foundNode⟩ := getElem?_rows_zip.mp found
  obtain ⟨wallet, dev, node⟩ := row
  simp [AgreesAt, foundRecord, found, foundDev, foundNode, Row.ofRecord]

theorem repeatsAt_iff (found : (s.rows.zip s.raw)[i]? = some (row, record)) :
    s.RepeatsAt i ↔ row.wallet ∈ ((s.rows.zip s.raw).take i).map (·.1.wallet) := by
  have here := (getElem?_rows_zip.mp found).2.1
  have inRange := (List.getElem?_eq_some_iff.mp found).1
  rw [RepeatsAt, here]
  constructor
  · rintro ⟨j, less, same⟩
    obtain ⟨⟨row', record'⟩, there⟩ : ∃ p, (s.rows.zip s.raw)[j]? = some p :=
      ⟨_, List.getElem?_eq_getElem (by omega)⟩
    have wallet := (getElem?_rows_zip.mp there).2.1
    rw [same, Option.some.injEq] at wallet
    refine List.mem_map.mpr ⟨(row', record'), List.mem_iff_getElem?.mpr ⟨j, ?_⟩, wallet.symm⟩
    rw [List.getElem?_take_of_lt less, there]
  · intro mem
    obtain ⟨⟨row', record'⟩, mem, same⟩ := List.mem_map.mp mem
    obtain ⟨j, there⟩ := List.mem_iff_getElem?.mp mem
    rw [List.getElem?_take] at there
    split at there
    case isTrue less => exact ⟨j, less, by rw [← same, (getElem?_rows_zip.mp there).2.1]⟩
    case isFalse => cases there

/-- Of a snapshot whose lengths agree, the check of the rows stops where something is wrong with a record. -/
theorem wrongAt_iff (aligned : s.Aligned) : WrongAt [] (s.rows.zip s.raw) i ↔ s.FaultyAt i := by
  constructor
  · rintro ⟨⟨row, record⟩, found, wrong⟩
    have inRange := (List.getElem?_eq_some_iff.mp found).1
    rw [length_rows_zip aligned] at inRange
    refine ⟨inRange, ?_⟩
    rw [agreesAt_iff found, repeatsAt_iff found]
    simpa using wrong
  · rintro ⟨inRange, wrong⟩
    obtain ⟨row, record, found⟩ := exists_row aligned inRange
    rw [agreesAt_iff found, repeatsAt_iff found] at wrong
    exact ⟨_, found, by simpa using wrong⟩

/-! ## Looking up the columns -/

/-- The check of the records from place `index` on, with the columns looked up at every place; nothing if a column has
ended there. -/
def inspectFrom? (s : Snapshot) (seen : List Address) (index : Nat) : List Record → Option (Except Fault Unit)
  | [] => some (.ok ())
  | record :: records => do
    let wallet ← s.wallets[index]?
    let dev ← s.devAmounts[index]?
    let node ← s.nodeAmounts[index]?
    if (⟨wallet, dev, node⟩ : Row) ≠ Row.ofRecord record then return .error (.rowMismatch index wallet)
    else if wallet ∈ seen then return .error (.duplicateWallet wallet)
    else s.inspectFrom? (wallet :: seen) (index + 1) records

/-- The check of a snapshot with the columns looked up at every place; nothing if a column ends before the records. -/
def inspect? (s : Snapshot) : Option (Except Fault Unit) :=
  if s.wallets.length ≠ s.devAmounts.length ∨ s.wallets.length ≠ s.nodeAmounts.length ∨
      s.wallets.length ≠ s.raw.length then
    some (.error (.misaligned s.wallets.length s.devAmounts.length s.nodeAmounts.length s.raw.length))
  else s.inspectFrom? [] 0 s.raw

/-- What is looked up at the places from `index` on are the rows that stand there. -/
theorem inspectFrom?_eq {pairs : List (Row × Record)} {index : Nat} (seen : List Address)
    (there : (s.rows.zip s.raw).drop index = pairs) :
    s.inspectFrom? seen index (pairs.map Prod.snd) = some (checkRows seen index pairs) := by
  induction pairs generalizing seen index with
  | nil => rfl
  | cons p rest ih =>
    obtain ⟨row, record⟩ := p
    have here : (s.rows.zip s.raw)[index]? = some (row, record) := by
      rw [← List.head?_drop, there, List.head?_cons]
    have after : (s.rows.zip s.raw).drop (index + 1) = rest := by
      rw [← List.tail_drop, there, List.tail_cons]
    obtain ⟨-, wallet, dev, node⟩ := getElem?_rows_zip.mp here
    simp only [List.map_cons, inspectFrom?, wallet, dev, node, Option.bind_eq_bind, Option.bind_some, checkRows]
    split
    case isTrue => rfl
    case isFalse =>
      split
      case isTrue => rfl
      case isFalse => exact ih _ after

theorem aligned_iff :
    s.Aligned ↔ ¬(s.wallets.length ≠ s.devAmounts.length ∨ s.wallets.length ≠ s.nodeAmounts.length ∨
      s.wallets.length ≠ s.raw.length) := by
  rw [Aligned]
  omega

/-- **No column ends too early** for the check. -/
theorem inspect?_eq (s : Snapshot) : s.inspect? = some s.validate := by
  unfold inspect? validate
  split
  case isTrue => rfl
  case isFalse aligned =>
    have enough := length_rows_zip (aligned_iff.mpr aligned)
    rw [List.length_zip] at enough
    have records : (s.rows.zip s.raw).map Prod.snd = s.raw := List.map_snd_zip (by omega)
    rw [← inspectFrom?_eq [] List.drop_zero, records]

/-! ## The whole check -/

/-- What is said of the first place where something is wrong. -/
theorem finds_iff (aligned : s.Aligned) {fault : Fault} :
    s.Finds fault ↔ ∃ i p, (s.rows.zip s.raw)[i]? = some p ∧ s.FirstFaultyAt i ∧ fault = verdict i p := by
  constructor
  · rintro (misaligned | @⟨i, wallet, -, first, here, differs⟩ | @⟨i, wallet, -, first, here, agrees⟩)
    · exact absurd aligned misaligned
    · obtain ⟨row, record, found⟩ := exists_row aligned first.1.1
      rw [(getElem?_rows_zip.mp found).2.1, Option.some.injEq] at here
      exact ⟨i, _, found, first, by rw [verdict, if_pos (mt (agreesAt_iff found).mpr differs), here]⟩
    · obtain ⟨row, record, found⟩ := exists_row aligned first.1.1
      rw [(getElem?_rows_zip.mp found).2.1, Option.some.injEq] at here
      exact ⟨i, _, found, first, by rw [verdict, if_neg (not_not.mpr ((agreesAt_iff found).mp agrees)), here]⟩
  · rintro ⟨i, ⟨row, record⟩, found, first, rfl⟩
    have here := (getElem?_rows_zip.mp found).2.1
    rw [verdict]
    split
    case isTrue differs => exact .rowMismatch aligned first here (mt (agreesAt_iff found).mp differs)
    case isFalse agrees => exact .duplicateWallet aligned first here ((agreesAt_iff found).mpr (not_not.mp agrees))

/-- A snapshot is refused just for the fault that is to be found in it. -/
theorem validate_eq_error_iff {fault : Fault} : s.validate = .error fault ↔ s.Finds fault := by
  unfold validate
  split
  case isTrue misaligned =>
    have misaligned := mt aligned_iff.mp (not_not.mpr misaligned)
    constructor
    · rintro ⟨⟩
      exact .misaligned misaligned
    · rintro (_ | ⟨aligned⟩ | ⟨aligned⟩)
      · rfl
      all_goals exact absurd aligned misaligned
  case isFalse aligned =>
    have aligned := aligned_iff.mpr aligned
    rw [finds_iff aligned, checkRows_eq_error_iff]
    simp only [wrongAt_iff aligned, FirstFaultyAt, Nat.zero_add, and_assoc]

/-- **The check says what is to be said of a snapshot.** It passes just a snapshot that is made from its records, no two
of them for one account; it refuses every other one for its lengths, or for the first place where a record does not
agree with the columns or a wallet is repeated; and it looks up no place that a column does not have. -/
theorem validate_verdict (s : Snapshot) :
    (s.validate = .ok () ↔ s = ofRecords s.raw ∧ (s.raw.map (·.account)).Nodup) ∧
    (∀ fault, s.validate = .error fault ↔ s.Finds fault) ∧
    s.inspect? = some s.validate := by
  refine ⟨?_, fun fault => validate_eq_error_iff, s.inspect?_eq⟩
  rw [validate_eq_ok_iff]
  refine and_congr_right fun made => ?_
  rw [congrArg wallets made, ofRecords]

end Allotment.Snapshot
