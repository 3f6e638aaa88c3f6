import Allotment.Proofs.Points.Entries

/-!
# Points from comma-separated text

What each line of a text gives and what may be wrong with it, without the order in which a reader looks:

* `Table.Significant`: the lines that count, each with its number among all lines;
* `Table.Line.Gives`: a line of two columns gives an entry, or nothing if its account is blank or it is the header,
  which only the first line that counts can be;
* `Table.Line.Offends`: what else a line may be, and the error that says so;
* `Table.ofCsv_reads`: a text gives a table just if each line gives something, and fails as its first line that offends.

A line is read in one way whatever its place is (`readAt_eq`); `readAt_eq_ok_iff` and `readAt_eq_error_iff` say what
this gives, and a text is the traversal of its lines with their places (`ofCsv_eq`).
-/

namespace Allotment.Points

/-- A text denotes a number: it is written in one or more decimal digits, after a plus sign or none. -/
def Denotes (value : String) (points : UInt64) : Prop :=
  ∃ sign digits, value.toList = sign ++ digits ∧ sign ∈ [[], ['+']] ∧ digits ≠ [] ∧
    (∀ c ∈ digits, c.isDigit = true) ∧ Text.digitsValue digits = points.toNat

theorem readUInt64?_eq_some_iff {value : String} {points : UInt64} :
    Text.readUInt64? value = some points ↔ Denotes value points := by
  rw [Text.readUInt64?_eq_some_iff, Text.readNat?_eq_some_iff]
  simp only [Text.readDigits?_eq_some_iff, Denotes]

namespace Table

/-! ## What a line says -/

/-- A line counts: without white space at its ends it is neither empty nor a comment. -/
def Significant (text : String) (line : Line) : Prop :=
  ∃ index raw, (Text.lineChars text.toList)[index]? = some raw ∧ line = ⟨index + 1, Text.trimChars raw⟩ ∧
    line.chars ≠ [] ∧ line.chars.head? ≠ some '#'

namespace Line

/-- A line has just the two columns given, each without white space at its ends. -/
def Columns (line : Line) (account value : String) : Prop :=
  ∃ first second, line.chars = first ++ ',' :: second ∧ ',' ∉ first ∧ ',' ∉ second ∧
    account = String.ofList (Text.trimChars first) ∧ value = String.ofList (Text.trimChars second)

/-- What a line gives; `leads` says that no line that counts comes before it. -/
inductive Gives (line : Line) (leads : Prop) : Option Entry → Prop
  | header {account value : String} : line.Columns account value → leads → isHeader account = true → Gives line leads none
  | blank {value : String} {points : UInt64} : line.Columns "" value → Denotes value points → Gives line leads none
  | entry {account value : String} {points : UInt64} {a : Address} : line.Columns account value →
    ¬(leads ∧ isHeader account = true) → Denotes value points → Address.parse account = .ok a →
    Gives line leads (some ⟨a, points⟩)

/-- What may be wrong with a line of a table; `leads` says that no line that counts comes before it. -/
inductive Offends (table : String) (line : Line) (leads : Prop) : Error → Prop
  | tooFew : line.chars.count ',' = 0 → Offends table line leads (.malformedLine table line.number .tooFewColumns)
  | tooMany : 2 ≤ line.chars.count ',' → Offends table line leads (.malformedLine table line.number .tooManyColumns)
  | points {account value : String} : line.Columns account value → ¬(leads ∧ isHeader account = true) →
    (∀ points, ¬Denotes value points) → Offends table line leads (.invalidPoints table account value)
  | account {account value : String} {points : UInt64} : line.Columns account value →
    ¬(leads ∧ isHeader account = true) → Denotes value points → account ≠ "" →
    (∀ a, Address.parse account ≠ .ok a) → Offends table line leads (.invalidAccount table account)

end Line

variable {name text account value : String} {line : Line} {leads : Prop} {points : UInt64} {row : Option Entry}
  {e : Error}

theorem mem_significantLines_iff : line ∈ significantLines text ↔ Significant text line := by
  rw [significantLines, List.mem_filter, Bool.and_eq_true, Bool.not_eq_true', List.isEmpty_eq_false_iff, bne_iff_ne,
    List.mem_iff_getElem?]
  simp only [List.getElem?_mapIdx, Option.map_eq_some_iff]
  constructor
  · rintro ⟨⟨index, raw, found, same⟩, nonempty, noComment⟩
    exact ⟨index, raw, found, same.symm, nonempty, noComment⟩
  · rintro ⟨index, raw, found, same, nonempty, noComment⟩
    exact ⟨⟨index, raw, found, same.symm⟩, nonempty, noComment⟩

/-- Lines are numbered as they come. -/
theorem pairwise_significantLines (text : String) : (significantLines text).Pairwise (·.number < ·.number) := by
  refine List.Pairwise.filter _ (List.pairwise_iff_getElem.mpr fun i j _ _ less => ?_)
  rw [List.getElem_mapIdx, List.getElem_mapIdx]
  exact Nat.succ_lt_succ less

/-! ## The columns of a line -/

theorem columns_eq_ok_iff : columns name line = .ok (account, value) ↔ line.Columns account value := by
  constructor
  · intro read
    unfold columns at read
    split at read
    case h_1 => cases read
    case h_2 first second split =>
      obtain ⟨joined, whole⟩ := Text.splitChars_eq_iff.mp split
      rw [List.forall_mem_cons, List.forall_mem_singleton] at whole
      cases read
      exact ⟨first, second, by simpa using joined, whole.1, whole.2, rfl, rfl⟩
    case h_3 => cases read
  · rintro ⟨first, second, joined, whole, whole', rfl, rfl⟩
    have split : Text.splitChars ',' line.chars = (first, [second]) :=
      Text.splitChars_eq_iff.mpr ⟨by simpa using joined,
        List.forall_mem_cons.mpr ⟨whole, List.forall_mem_singleton.mpr whole'⟩⟩
    rw [columns, split]

theorem columns_eq_error_iff :
    columns name line = .error e ↔
      line.chars.count ',' = 0 ∧ e = .malformedLine name line.number .tooFewColumns ∨
      2 ≤ line.chars.count ',' ∧ e = .malformedLine name line.number .tooManyColumns := by
  rw [← Text.length_splitChars]
  unfold columns
  split
  case h_1 split => simp [split, eq_comm]
  case h_2 split => simp [split]
  case h_3 split => simp [split, eq_comm]

/-! ## Reading a line -/

/-- A column has no white space at its ends. -/
theorem trim_of_columns (columns : line.Columns account value) : Text.trim account = account := by
  obtain ⟨first, second, -, -, -, rfl, -⟩ := columns
  rw [Text.trim, String.toList_ofList, Text.trimChars_eq_self (Text.trimmed_trimChars first)]

theorem isBlankText_iff_eq_empty (trimmed : Text.trim account = account) :
    Text.isBlankText account = true ↔ account = "" := by
  rw [← Text.isEmpty_trim, trimmed, String.isEmpty_iff]

theorem readEntry_eq_ok_iff (trimmed : Text.trim account = account) :
    readEntry name account points = .ok row ↔
      account = "" ∧ row = none ∨ ∃ a, Address.parse account = .ok a ∧ row = some ⟨a, points⟩ := by
  rw [readEntry_gives_iff, ← Bool.not_eq_true, isBlankText_iff_eq_empty trimmed]
  refine or_congr_right (and_iff_right_of_imp ?_)
  rintro ⟨a, denoted, -⟩ rfl
  have none : Address.parse? "" = none := Address.parse?_of_isBlankText rfl
  rw [Address.parse_eq_ok_iff, none] at denoted
  cases denoted

theorem readEntry_eq_error_iff (trimmed : Text.trim account = account) :
    readEntry name account points = .error e ↔
      account ≠ "" ∧ (∀ a, Address.parse account ≠ .ok a) ∧ e = .invalidAccount name account := by
  rw [readEntry_fails_iff, ← Bool.not_eq_true, isBlankText_iff_eq_empty trimmed]

theorem readColumns_eq_ok_iff :
    readColumns name (account, value) = .ok row ↔
      ∃ points, Denotes value points ∧ readEntry name account points = .ok row := by
  rw [readColumns]
  simp only [← readUInt64?_eq_some_iff]
  cases Text.readUInt64? value with
  | none => simp
  | some points => simp

theorem readColumns_eq_error_iff :
    readColumns name (account, value) = .error e ↔
      (∀ points, ¬Denotes value points) ∧ e = .invalidPoints name account value ∨
      ∃ points, Denotes value points ∧ readEntry name account points = .error e := by
  rw [readColumns]
  simp only [← readUInt64?_eq_some_iff]
  cases Text.readUInt64? value with
  | none => simp [eq_comm]
  | some points => simp

/-- The entry of a line with its place among those that count. -/
def readAt (name : String) (source : Line × Nat) : Except Error (Option Entry) :=
  if source.2 = 0 then readFirstLine name source.1 else readLine name source.1

/-- A line is read in one way whatever its place is, but for a header. -/
theorem readAt_eq (name : String) (line : Line) (place : Nat) :
    readAt name (line, place) = columns name line >>= fun columns =>
      if place = 0 ∧ isHeader columns.1 = true then .ok none else readColumns name columns := by
  unfold readAt readFirstLine readLine
  split
  case isTrue first =>
    have first : place = 0 := first
    simp only [first, true_and]
    rfl
  case isFalse later =>
    have later : place ≠ 0 := later
    simp only [later, false_and, if_false]

/-- **What a line gives.** -/
theorem readAt_eq_ok_iff {place : Nat} : readAt name (line, place) = .ok row ↔ line.Gives (place = 0) row := by
  rw [readAt_eq, bind_eq_ok_iff]
  constructor
  · rintro ⟨⟨account, value⟩, read, given⟩
    have columns := columns_eq_ok_iff.mp read
    split at given
    case isTrue header =>
      cases given
      exact .header columns header.1 header.2
    case isFalse plain =>
      obtain ⟨points, number, given⟩ := readColumns_eq_ok_iff.mp given
      rcases (readEntry_eq_ok_iff (trim_of_columns columns)).mp given with ⟨rfl, rfl⟩ | ⟨a, parsed, rfl⟩
      · exact .blank columns number
      · exact .entry columns plain number parsed
  · intro given
    cases given with
    | @header account value columns leads header =>
      exact ⟨_, columns_eq_ok_iff.mpr columns, if_pos ⟨leads, header⟩⟩
    | @blank value points columns number =>
      have noHeader : isHeader "" = false := by decide
      refine ⟨_, columns_eq_ok_iff.mpr columns, ?_⟩
      rw [if_neg (by simp [noHeader])]
      exact readColumns_eq_ok_iff.mpr
        ⟨points, number, (readEntry_eq_ok_iff (trim_of_columns columns)).mpr (.inl ⟨rfl, rfl⟩)⟩
    | @entry account value points a columns plain number parsed =>
      refine ⟨_, columns_eq_ok_iff.mpr columns, ?_⟩
      rw [if_neg plain]
      exact readColumns_eq_ok_iff.mpr
        ⟨points, number, (readEntry_eq_ok_iff (trim_of_columns columns)).mpr (.inr ⟨a, parsed, rfl⟩)⟩

/-- **How a line fails.** -/
theorem readAt_eq_error_iff {place : Nat} :
    readAt name (line, place) = .error e ↔ line.Offends name (place = 0) e := by
  rw [readAt_eq, bind_eq_error_iff, columns_eq_error_iff]
  constructor
  · rintro ((⟨few, rfl⟩ | ⟨many, rfl⟩) | ⟨⟨account, value⟩, read, given⟩)
    · exact .tooFew few
    · exact .tooMany many
    · have columns := columns_eq_ok_iff.mp read
      split at given
      case isTrue => cases given
      case isFalse plain =>
        rcases readColumns_eq_error_iff.mp given with ⟨none, rfl⟩ | ⟨points, number, given⟩
        · exact .points columns plain none
        · obtain ⟨visible, other, rfl⟩ := (readEntry_eq_error_iff (trim_of_columns columns)).mp given
          exact .account columns plain number visible other
  · intro offends
    cases offends with
    | tooFew few => exact .inl (.inl ⟨few, rfl⟩)
    | tooMany many => exact .inl (.inr ⟨many, rfl⟩)
    | @points account value columns plain none =>
      refine .inr ⟨_, columns_eq_ok_iff.mpr columns, ?_⟩
      rw [if_neg plain]
      exact readColumns_eq_error_iff.mpr (.inl ⟨none, rfl⟩)
    | @account account value points columns plain number visible other =>
      refine .inr ⟨_, columns_eq_ok_iff.mpr columns, ?_⟩
      rw [if_neg plain]
      exact readColumns_eq_error_iff.mpr
        (.inr ⟨points, number, (readEntry_eq_error_iff (trim_of_columns columns)).mpr ⟨visible, other, rfl⟩⟩)

/-! ## Reading a text -/

/-- Lines that are not the first are read without looking for a header. -/
theorem mapM_readAt_later (name : String) (lines : List Line) (place : Nat) :
    (lines.zipIdx (place + 1)).mapM (readAt name) = lines.mapM (readLine name) := by
  induction lines generalizing place with
  | nil => rfl
  | cons line lines ih =>
    rw [List.zipIdx_cons, List.mapM_cons, List.mapM_cons, ih]
    rfl

/-- A text is the traversal of its lines with their places. -/
theorem ofCsv_eq (name text : String) :
    ofCsv name text = collect name (readAt name) (significantLines text).zipIdx := by
  unfold ofCsv collect
  split
  case h_1 none =>
    rw [none]
    rfl
  case h_2 first others some =>
    rw [some, List.zipIdx_cons, List.mapM_cons, mapM_readAt_later, bind_assoc]
    refine bind_congr fun entry => ?_
    rw [bind_assoc]
    rfl

/-- **A text of comma-separated lines gives the entries of its lines, or the error of the first that offends.** -/
theorem ofCsv_reads (name text : String) :
    (∀ line, line ∈ significantLines text ↔ Significant text line) ∧
    (significantLines text).Pairwise (·.number < ·.number) ∧
    (∀ table, ofCsv name text = .ok table ↔
      ∃ rows, List.Forall₂ (fun source row => source.1.Gives (source.2 = 0) row) (significantLines text).zipIdx rows ∧
        table = ⟨name, rows.filterMap id⟩) ∧
    ∀ e, ofCsv name text = .error e ↔
      ∃ earlier line later, significantLines text = earlier ++ line :: later ∧
        (∀ source ∈ earlier.zipIdx, ∃ row, source.1.Gives (source.2 = 0) row) ∧ line.Offends name (earlier = []) e := by
  refine ⟨fun line => mem_significantLines_iff, pairwise_significantLines text, fun table => ?_, fun e => ?_⟩
  · have reads (source : Line × Nat) (row : Option Entry) :
        readAt name source = .ok row ↔ source.1.Gives (source.2 = 0) row := readAt_eq_ok_iff
    simp only [ofCsv_eq, collect, bind_eq_ok_iff, mapM_eq_ok_iff, reads]
    refine exists_congr fun rows => and_congr_right fun _ => ?_
    show Except.ok _ = Except.ok table ↔ _
    rw [Except.ok.injEq, eq_comm]
  · rw [ofCsv_eq, collect, bind_eq_error_iff, mapM_eq_error_iff]
    constructor
    · rintro (⟨earlier, source, later, whole, passed, failed⟩ | ⟨rows, -, ⟨⟩⟩)
      obtain ⟨earlier, rest, lines, rfl, rest'⟩ := List.zipIdx_eq_append_iff.mp whole
      obtain ⟨line, later, rfl, rfl, -⟩ := List.zipIdx_eq_cons_iff.mp rest'.symm
      have offends := readAt_eq_error_iff.mp failed
      rw [Nat.zero_add, List.length_eq_zero_iff] at offends
      exact ⟨earlier, line, later, lines, fun source mem => (passed source mem).imp fun _ => readAt_eq_ok_iff.mp,
        offends⟩
    · rintro ⟨earlier, line, later, whole, passed, offends⟩
      rw [whole, List.zipIdx_append, List.zipIdx_cons]
      rw [← List.length_eq_zero_iff, ← Nat.zero_add earlier.length] at offends
      exact .inl ⟨_, _, _, rfl, fun source mem => (passed source mem).imp fun _ => readAt_eq_ok_iff.mpr,
        readAt_eq_error_iff.mpr offends⟩

end Table

end Allotment.Points
