import Allotment.Points.Table
import Allotment.Proofs.Address.Spelling
import Allotment.Proofs.Outcome

/-!
# Entries, whatever they are read from

A table is made of sources that are read one after the other. It is there just if every source gives an entry or
nothing (`exists_collect_iff`), and else fails as the first source that gives neither (`collect_eq_error_iff`). Its
entries are those of the sources whose account is not blank, in order (`entries_of_collect`).
-/

namespace Allotment.Points.Table

variable {α : Type} {name raw : String} {points : UInt64} {row : Option Entry} {e : Error} {sources : List α}
  {read : α → Except Error (Option Entry)} {table : Table}

/-! ## One entry -/

/-- An account as it was written gives nothing if it is blank, and else an entry if it denotes one. -/
theorem readEntry_gives_iff :
    readEntry name raw points = .ok row ↔
      Text.isBlankText raw = true ∧ row = none ∨
      Text.isBlankText raw = false ∧ ∃ a, Address.parse raw = .ok a ∧ row = some ⟨a, points⟩ := by
  simp only [readEntry, Address.parse_eq_ok_iff]
  by_cases blank : Text.isBlankText raw = true
  · simp [blank, eq_comm]
  · rw [Bool.not_eq_true] at blank
    cases denoted : Address.parse? raw with
    | none => simp [blank]
    | some a => simp [blank, eq_comm]

/-- An account as it was written fails if it is not blank and denotes none. -/
theorem readEntry_fails_iff :
    readEntry name raw points = .error e ↔
      Text.isBlankText raw = false ∧ (∀ a, Address.parse raw ≠ .ok a) ∧ e = .invalidAccount name raw := by
  simp only [readEntry, ne_eq, Address.parse_eq_ok_iff]
  by_cases blank : Text.isBlankText raw = true
  · simp [blank]
  · rw [Bool.not_eq_true] at blank
    cases denoted : Address.parse? raw with
    | none => simp [blank, eq_comm]
    | some a => simp [blank]

/-- It makes no difference to an entry how many points there are. -/
theorem exists_readEntry_iff :
    (∃ row, readEntry name raw points = .ok row) ↔
      Text.isBlankText raw = true ∨ ∃ a, Address.parse raw = .ok a := by
  simp only [readEntry_gives_iff]
  constructor
  · rintro ⟨row, ⟨blank, -⟩ | ⟨-, a, denoted, -⟩⟩
    · exact .inl blank
    · exact .inr ⟨a, denoted⟩
  · intro given
    by_cases blank : Text.isBlankText raw = true
    · exact ⟨none, .inl ⟨blank, rfl⟩⟩
    · obtain ⟨a, denoted⟩ := given.resolve_left blank
      exact ⟨_, .inr ⟨by simpa using blank, a, denoted, rfl⟩⟩

/-! ## Entries one after the other -/

theorem collect_eq_ok_iff :
    collect name read sources = .ok table ↔
      ∃ rows, List.Forall₂ (fun source row => read source = .ok row) sources rows ∧
        table = ⟨name, rows.filterMap id⟩ := by
  rw [collect, bind_eq_ok_iff]
  simp only [mapM_eq_ok_iff]
  refine exists_congr fun rows => and_congr_right fun _ => ?_
  show Except.ok _ = Except.ok table ↔ _
  rw [Except.ok.injEq, eq_comm]

/-- A table fails as the first of its sources that does. -/
theorem collect_eq_error_iff :
    collect name read sources = .error e ↔
      ∃ earlier source later, sources = earlier ++ source :: later ∧
        (∀ before ∈ earlier, ∃ row, read before = .ok row) ∧ read source = .error e := by
  rw [collect, bind_eq_error_iff, mapM_eq_error_iff]
  exact or_iff_left nofun

/-- There is a table just if every source gives something. -/
theorem exists_collect_iff :
    (∃ table, collect name read sources = .ok table) ↔ ∀ source ∈ sources, ∃ row, read source = .ok row := by
  constructor
  · rintro ⟨table, made⟩ source mem
    obtain ⟨rows, all, -⟩ := collect_eq_ok_iff.mp made
    obtain ⟨i, inRange, rfl⟩ := List.mem_iff_getElem.mp mem
    exact ⟨_, all.get inRange (all.length_eq ▸ inRange)⟩
  · intro each
    cases made : collect name read sources with
    | ok table => exact ⟨table, rfl⟩
    | error e =>
      obtain ⟨earlier, source, later, rfl, -, failed⟩ := collect_eq_error_iff.mp made
      obtain ⟨row, ok⟩ := each source (by simp)
      rw [failed] at ok
      cases ok

/-- **A table has the entries of the sources whose account is not blank**, in order. -/
theorem entries_of_collect (key : α → String) (counts : α → UInt64 → Prop)
    (reads : ∀ source row, read source = .ok row →
      ∃ points, counts source points ∧ readEntry name (key source) points = .ok row)
    (made : collect name read sources = .ok table) :
    table.name = name ∧
      List.Forall₂ (fun source entry => Address.parse (key source) = .ok entry.account ∧ counts source entry.points)
        (sources.filter fun source => !Text.isBlankText (key source)) table.entries := by
  obtain ⟨rows, all, rfl⟩ := collect_eq_ok_iff.mp made
  refine ⟨rfl, ?_⟩
  dsimp only
  clear made
  induction all with
  | nil => exact .nil
  | @cons source row sources rows first all ih =>
    obtain ⟨points, counted, given⟩ := reads source row first
    rcases readEntry_gives_iff.mp given with ⟨blank, rfl⟩ | ⟨visible, a, denoted, rfl⟩
    · rw [List.filter_cons_of_neg (by simp [blank])]
      exact ih
    · rw [List.filter_cons_of_pos (by simp [visible])]
      exact .cons ⟨denoted, counted⟩ ih

end Allotment.Points.Table
