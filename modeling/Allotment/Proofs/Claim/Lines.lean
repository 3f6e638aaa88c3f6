import Allotment.Claim.Lines
import Allotment.Proofs.Address.Spelling
import Allotment.Proofs.Text.Lines

/-!
# The lines of an account list

* Only those lines count that a text is made of, whatever their line ends are (`Claim.accountLines_of_madeOf`);
* what is listed has no white space at its ends and is no comment (`Claim.listable_of_mem`), so it is listed just so
  when it is read again (`Claim.accountLines_of_listable`);
* a line that is an account is listed as it is without white space at its ends (`Claim.mem_accountLines_of_parse`).

So a list may be cut and put together at line feeds, and no account in it is lost (`Claim.accountLines_keep_accounts`).
-/

namespace Allotment.Claim

open Text (MadeOf trimChars)

variable {text : String} {lines : List String} {a : Address}

/-- A line as it is listed: without white space at its ends, in one line, neither empty nor a comment. -/
structure Listable (line : String) : Prop where
  trimmed : Text.trim line = line
  nonempty : line ≠ ""
  whole : '\n' ∉ line.toList
  noComment : line.toList.head? ≠ some '#'

theorem namesAccount_iff {cs : List Char} : namesAccount cs = true ↔ cs ≠ [] ∧ cs.head? ≠ some '#' := by
  rw [namesAccount, Bool.and_eq_true, Bool.not_eq_true', List.isEmpty_eq_false_iff, bne_iff_ne]

/-- What is listed are the lines that a text is made of, as far as they name accounts. -/
theorem accountLines_of_madeOf {cs : List (List Char)} (made : MadeOf cs text.toList) :
    accountLines text = ((cs.map trimChars).filter namesAccount).map String.ofList := by
  have same : ((Text.lineChars text.toList).map trimChars).filter namesAccount =
      (cs.map trimChars).filter namesAccount :=
    Text.filter_lineChars made
  rw [accountLines, same]

/-- Trimming adds no characters. -/
theorem mem_of_mem_trimChars {cs : List Char} {c : Char} (mem : c ∈ trimChars cs) : c ∈ cs := by
  obtain ⟨before, after, whole, -⟩ := Text.exists_around_trimChars cs
  rw [whole]
  exact List.mem_append_left _ (List.mem_append_right _ mem)

theorem listable_of_mem {line : String} (mem : line ∈ accountLines text) : Listable line := by
  obtain ⟨cs, kept, rfl⟩ := List.mem_map.mp mem
  obtain ⟨trimmed, named⟩ := List.mem_filter.mp kept
  obtain ⟨raw, found, rfl⟩ := List.mem_map.mp trimmed
  obtain ⟨nonempty, noComment⟩ := namesAccount_iff.mp named
  have whole := (Text.madeOf_lineChars text.toList).not_mem raw found
  constructor
  · rw [Text.trim, String.toList_ofList, Text.trimChars_eq_self (Text.trimmed_trimChars raw)]
  · rwa [Ne, ← String.toList_eq_nil_iff, String.toList_ofList]
  · rw [String.toList_ofList]
    exact fun feed => whole (mem_of_mem_trimChars feed)
  · rwa [String.toList_ofList]

/-- Lines as they are listed are listed just so, whatever their line ends are. -/
theorem accountLines_of_listable (listable : ∀ line ∈ lines, Listable line)
    (made : MadeOf (lines.map String.toList) text.toList) : accountLines text = lines := by
  have trimmed : (lines.map String.toList).map trimChars = lines.map String.toList := by
    rw [List.map_map]
    refine List.map_congr_left fun line mem => ?_
    rw [Function.comp_apply, ← Text.toList_trim, (listable line mem).trimmed]
  have named : ∀ cs ∈ lines.map String.toList, namesAccount cs = true := by
    intro cs found
    obtain ⟨line, mem, rfl⟩ := List.mem_map.mp found
    have nonempty : line.toList ≠ [] := by
      rw [Ne, String.toList_eq_nil_iff]
      exact (listable line mem).nonempty
    exact namesAccount_iff.mpr ⟨nonempty, (listable line mem).noComment⟩
  rw [accountLines_of_madeOf made, trimmed, List.filter_eq_self.mpr named, List.map_map]
  exact (List.map_congr_left fun line _ => String.ofList_toList).trans (List.map_id lines)

/-- The lines of two texts with a line feed between are those of the one and then those of the other. -/
theorem accountLines_append (a b : String) : accountLines (a ++ "\n" ++ b) = accountLines a ++ accountLines b := by
  have first := Text.madeOf_lineChars a.toList
  have second := Text.madeOf_lineChars b.toList
  obtain ⟨between, known, made⟩ := first.append second
  -- an empty line between the two names no account
  have silent : (between.map trimChars).filter namesAccount = [] := by
    simp only [List.mem_cons, List.not_mem_nil, or_false] at known
    rcases known with rfl | rfl
    · rfl
    · rfl
  have joined : (a ++ "\n" ++ b).toList = a.toList ++ '\n' :: b.toList := by
    rw [String.toList_append, String.toList_append, List.append_assoc]
    rfl
  rw [← joined] at made
  rw [accountLines_of_madeOf made, accountLines_of_madeOf first, accountLines_of_madeOf second]
  simp only [List.map_append, List.filter_append, silent, List.append_nil]

/-- What was listed is listed again when it is joined with line ends, with or without one at the end. -/
theorem accountLines_intercalate (text : String) {ending final : String} (kind : ending ∈ ["\n", "\r\n"])
    (ends : final ∈ ["", ending]) :
    accountLines (ending.intercalate (accountLines text) ++ final) = accountLines text := by
  have listable : ∀ line ∈ accountLines text, Listable line := fun line mem => listable_of_mem mem
  have ending_eq : ending.toList ∈ [['\n'], ['\r', '\n']] := by
    simp only [List.mem_cons, List.not_mem_nil, or_false] at kind
    rcases kind with rfl | rfl
    · exact List.mem_cons_self
    · exact List.mem_cons_of_mem _ List.mem_cons_self
  have final_eq : final.toList = [] ∨ final.toList = ending.toList := by
    simp only [List.mem_cons, List.not_mem_nil, or_false] at ends
    rcases ends with rfl | rfl
    · exact .inl rfl
    · exact .inr rfl
  cases listed : accountLines text with
  | nil =>
    simp only [List.mem_cons, List.not_mem_nil, or_false] at kind ends
    rcases kind with rfl | rfl <;> rcases ends with rfl | rfl <;> rfl
  | cons first others =>
    rw [listed] at listable
    have whole : ∀ cs ∈ (first :: others).map String.toList, '\n' ∉ cs := by
      intro cs found
      obtain ⟨line, mem, rfl⟩ := List.mem_map.mp found
      exact (listable line mem).whole
    refine accountLines_of_listable listable ?_
    rw [String.toList_append, String.toList_intercalate]
    exact Text.madeOf_intercalate whole (List.cons_ne_nil _ _) ending_eq final_eq

/-! ## Accounts -/

/-- A line that is an account is no comment. -/
theorem namesAccount_of_parse {line : String} (denoted : Address.parse line = .ok a) :
    namesAccount (trimChars line.toList) = true := by
  obtain ⟨digits, spelled, -⟩ := Address.parse?_eq_some_iff.mp (Address.parse_eq_ok_iff.mp denoted)
  have left := Address.dropMark_of_spells spelled
  refine namesAccount_iff.mpr ⟨?_, ?_⟩
  · intro empty
    rw [empty] at left
    have forty := spelled.forty
    rw [← left] at forty
    cases forty
  · intro comment
    obtain ⟨rest, same⟩ := List.head?_eq_some_iff.mp comment
    -- the mark of a comment would be a digit
    have hash : '#' ∈ digits := by
      rw [← left, same]
      exact List.mem_cons_self
    exact absurd (spelled.digits '#' hash) (by decide)

theorem mem_accountLines_of_parse {line : String} (made : MadeOf (lines.map String.toList) text.toList)
    (mem : line ∈ lines) (denoted : Address.parse line = .ok a) :
    Text.trim line ∈ accountLines text ∧ Address.parse (Text.trim line) = .ok a := by
  refine ⟨?_, Address.parse_trim.mpr denoted⟩
  rw [accountLines_of_madeOf made]
  refine List.mem_map.mpr ⟨trimChars line.toList, List.mem_filter.mpr ⟨?_, namesAccount_of_parse denoted⟩, rfl⟩
  exact List.mem_map_of_mem (List.mem_map_of_mem mem)

/-- The accounts that are listed are those of the lines, each as often and at its place. -/
theorem filterMap_accountLines (made : MadeOf (lines.map String.toList) text.toList) :
    (accountLines text).filterMap Address.parse? = lines.filterMap Address.parse? := by
  rw [accountLines_of_madeOf made, List.filterMap_map, List.filterMap_filter, List.filterMap_map, List.filterMap_map]
  refine congrArg (lines.filterMap ·) (funext fun line => ?_)
  have same : Address.parse? (String.ofList (trimChars line.toList)) = Address.parse? line := by
    rw [Address.parse?, Address.parse?, String.toList_ofList, Text.trimChars_eq_self (Text.trimmed_trimChars _)]
  simp only [Function.comp_apply, same]
  split
  case isTrue => rfl
  case isFalse silent =>
    cases denoted : Address.parse? line with
    | none => rfl
    | some a => exact absurd (namesAccount_of_parse (Address.parse_eq_ok_iff.mpr denoted)) silent

/-- **An account list may be cut at line feeds, and no account in it is lost.** The lines of two texts with a line feed
between are listed one after the other. What is listed has no white space at its ends, is in one line and is neither
empty nor a comment; joined with line ends of either kind, with or without one at the end, it is listed just so again.
Each line of a text that is an account is listed and denotes the same account, whatever line ends, comments, blank
lines and white space are around it, and the accounts come as often and in the same order. -/
theorem accountLines_keep_accounts :
    (∀ a b, accountLines (a ++ "\n" ++ b) = accountLines a ++ accountLines b) ∧
    (∀ text, ∀ line ∈ accountLines text,
      Text.trim line = line ∧ line ≠ "" ∧ '\n' ∉ line.toList ∧ line.toList.head? ≠ some '#') ∧
    (∀ text, ∀ ending ∈ ["\n", "\r\n"], ∀ final ∈ ["", ending],
      accountLines (ending.intercalate (accountLines text) ++ final) = accountLines text) ∧
    ∀ text : String, MadeOf (Text.lineChars text.toList) text.toList ∧
      ∀ lines : List String, MadeOf (lines.map String.toList) text.toList →
        (∀ line ∈ lines, ∀ a, Address.parse line = .ok a →
          Text.trim line ∈ accountLines text ∧ Address.parse (Text.trim line) = .ok a) ∧
        (accountLines text).filterMap Address.parse? = lines.filterMap Address.parse? := by
  refine ⟨accountLines_append, ?_, ?_, ?_⟩
  · intro text line mem
    obtain ⟨trimmed, nonempty, whole, noComment⟩ := listable_of_mem mem
    exact ⟨trimmed, nonempty, whole, noComment⟩
  · exact fun text ending kind final ends => accountLines_intercalate text kind ends
  · refine fun text => ⟨Text.madeOf_lineChars text.toList, fun lines made => ⟨?_, filterMap_accountLines made⟩⟩
    exact fun line mem a denoted => mem_accountLines_of_parse made mem denoted

/-- A list with a comment, an empty line and two accounts among white space. -/
def teamLines : List String :=
  ["# team", "", "\t0x3333333333333333333333333333333333333333", "4444444444444444444444444444444444444444  "]

/-- These lines with ends of both kinds, and none at the end. -/
def teamText : String :=
  "# team\r\n\n\t0x3333333333333333333333333333333333333333\r\n4444444444444444444444444444444444444444  "

theorem teamText_keeps_accounts :
    MadeOf (teamLines.map String.toList) teamText.toList ∧
    "4444444444444444444444444444444444444444" ∈ accountLines teamText ∧
    (accountLines teamText).filterMap Address.parse? =
      [⟨Vector.replicate 20 0x33⟩, ⟨Vector.replicate 20 0x44⟩] ∧
    accountLines ("\r\n".intercalate (accountLines teamText) ++ "\r\n") = accountLines teamText ∧
    accountLines (teamText ++ "\n" ++ "# end") = accountLines teamText := by
  obtain ⟨append, -, joined, kept⟩ := accountLines_keep_accounts
  have lines : Text.lineChars teamText.toList = teamLines.map String.toList := by decide +kernel
  have made : MadeOf (teamLines.map String.toList) teamText.toList := by
    rw [← lines]
    exact (kept teamText).1
  obtain ⟨listed, accounts⟩ := (kept teamText).2 teamLines made
  refine ⟨made, ?_, ?_, ?_, ?_⟩
  · have mem := listed "4444444444444444444444444444444444444444  " (by decide) ⟨Vector.replicate 20 0x44⟩ rfl
    exact mem.1
  · exact accounts
  · exact joined teamText "\r\n" (by decide) "\r\n" (by decide)
  · exact (append teamText "# end").trans (List.append_nil _)

end Allotment.Claim
