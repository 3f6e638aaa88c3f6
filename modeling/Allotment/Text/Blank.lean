import Allotment.Text.Range

/-!
# White space and trimming

White space is the Unicode property of that name. `trim` removes it from both ends of a text and nothing else
(`trimmed_trimChars`, `exists_around_trimChars`), does nothing to a text that has none there (`trimChars_eq_self`), and
leaves nothing just of a text that is blank (`trimChars_eq_nil_iff`).
-/

namespace Allotment.Text

/-- Ranges of the white-space characters, ends included. -/
def blankRanges : List (Nat × Nat) := [
  (0x09, 0x0d), (0x20, 0x20), (0x85, 0x85), (0xa0, 0xa0), (0x1680, 0x1680), (0x2000, 0x200a), (0x2028, 0x2029),
  (0x202f, 0x202f), (0x205f, 0x205f), (0x3000, 0x3000)]

/-- Whether a character is white space. -/
def isBlank (c : Char) : Bool :=
  within blankRanges c

/-- The characters left when white space is removed from the end. -/
def trimEndChars (cs : List Char) : List Char :=
  (cs.reverse.dropWhile isBlank).reverse

/-- The characters left when white space is removed from both ends. -/
def trimChars (cs : List Char) : List Char :=
  trimEndChars (cs.dropWhile isBlank)

/-- A text without the white space at its two ends. -/
def trim (s : String) : String :=
  String.ofList (trimChars s.toList)

/-- Whether a text holds nothing but white space. -/
def isBlankText (s : String) : Bool :=
  s.toList.all isBlank

@[simp] theorem toList_trim (s : String) : (trim s).toList = trimChars s.toList :=
  String.toList_ofList

/-- No white space stands at either end. -/
def Trimmed (cs : List Char) : Prop :=
  (∀ c ∈ cs.head?, isBlank c = false) ∧ ∀ c ∈ cs.getLast?, isBlank c = false

theorem head?_dropWhile_isBlank (cs : List Char) : ∀ c ∈ (cs.dropWhile isBlank).head?, isBlank c = false := by
  intro c hc
  have := List.head?_dropWhile_not isBlank cs
  rw [Option.mem_def.mp hc] at this
  simpa using this

theorem trimEndChars_isPrefix (cs : List Char) : trimEndChars cs <+: cs := by
  simpa [trimEndChars, List.reverse_prefix] using
    List.reverse_prefix.mpr (List.dropWhile_suffix isBlank (l := cs.reverse))

/-- Trimming leaves no white space at either end. -/
theorem trimmed_trimChars (cs : List Char) : Trimmed (trimChars cs) := by
  refine ⟨fun c hc => head?_dropWhile_isBlank cs c ?_, fun c hc => ?_⟩
  · obtain ⟨rest, hr⟩ := trimEndChars_isPrefix (cs.dropWhile isBlank)
    have hc : (trimEndChars (cs.dropWhile isBlank)).head? = some c := hc
    rw [← hr, List.head?_append, hc]
    exact Option.mem_def.mpr rfl
  · refine head?_dropWhile_isBlank (cs.dropWhile isBlank).reverse c ?_
    simpa [trimChars, trimEndChars] using hc

theorem dropWhile_isBlank_eq_self {cs : List Char} (h : ∀ c ∈ cs.head?, isBlank c = false) :
    cs.dropWhile isBlank = cs := by
  cases cs with
  | nil => rfl
  | cons c rest => simp [h c rfl]

/-- Trimming changes nothing where no white space is at either end. -/
theorem trimChars_eq_self {cs : List Char} (h : Trimmed cs) : trimChars cs = cs := by
  rw [trimChars, dropWhile_isBlank_eq_self h.1, trimEndChars, dropWhile_isBlank_eq_self (by simpa using h.2),
    List.reverse_reverse]

theorem dropWhile_isBlank_eq_nil_iff {cs : List Char} : cs.dropWhile isBlank = [] ↔ ∀ c ∈ cs, isBlank c = true := by
  induction cs with
  | nil => simp
  | cons c cs ih =>
    rw [List.dropWhile_cons, List.forall_mem_cons]
    split
    case isTrue blank => rw [ih, and_iff_right blank]
    case isFalse other => simp [other]

/-- Trimming leaves nothing just of white space. -/
theorem trimChars_eq_nil_iff {cs : List Char} : trimChars cs = [] ↔ ∀ c ∈ cs, isBlank c = true := by
  rw [trimChars, trimEndChars, List.reverse_eq_nil_iff, dropWhile_isBlank_eq_nil_iff]
  simp only [List.mem_reverse]
  constructor
  · intro allBlank
    rw [← dropWhile_isBlank_eq_nil_iff]
    cases rest : cs.dropWhile isBlank with
    | nil => rfl
    | cons c others =>
      -- what comes first in the rest is not blank
      have first : isBlank c = false := head?_dropWhile_isBlank cs c (by rw [rest]; rfl)
      have blank : isBlank c = true := allBlank c (by rw [rest]; exact List.mem_cons_self)
      rw [first] at blank
      cases blank
  · intro allBlank c mem
    exact allBlank c ((List.dropWhile_suffix isBlank).subset mem)

/-- What trimming takes away is white space at the two ends. -/
theorem exists_around_trimChars (cs : List Char) :
    ∃ before after, cs = before ++ trimChars cs ++ after ∧ (∀ c ∈ before, isBlank c = true) ∧
      ∀ c ∈ after, isBlank c = true := by
  have front := List.takeWhile_append_dropWhile (p := isBlank) (l := cs)
  have back := List.takeWhile_append_dropWhile (p := isBlank) (l := (cs.dropWhile isBlank).reverse)
  refine ⟨cs.takeWhile isBlank, ((cs.dropWhile isBlank).reverse.takeWhile isBlank).reverse, ?_, ?_, ?_⟩
  · rw [trimChars, trimEndChars, List.append_assoc, ← List.reverse_append, back, List.reverse_reverse, front]
  · intro c mem
    exact List.all_eq_true.mp (List.all_takeWhile (p := isBlank) (l := cs)) c mem
  · intro c mem
    exact List.all_eq_true.mp (List.all_takeWhile (p := isBlank)) c (List.mem_reverse.mp mem)

/-- White space around a text that has none at its ends is what trimming takes away. -/
theorem trimChars_around {before cs after : List Char} (blankBefore : ∀ c ∈ before, isBlank c = true)
    (trimmed : Trimmed cs) (blankAfter : ∀ c ∈ after, isBlank c = true) : trimChars (before ++ cs ++ after) = cs := by
  cases cs with
  | nil =>
    rw [List.append_nil, trimChars_eq_nil_iff]
    intro c mem
    rcases List.mem_append.mp mem with mem | mem
    · exact blankBefore c mem
    · exact blankAfter c mem
  | cons c rest =>
    have front : (before ++ c :: rest ++ after).dropWhile isBlank = c :: rest ++ after := by
      rw [List.append_assoc, List.dropWhile_append_of_pos blankBefore]
      exact dropWhile_isBlank_eq_self trimmed.1
    have back : ∀ c ∈ after.reverse, isBlank c = true := fun c mem => blankAfter c (List.mem_reverse.mp mem)
    have last : ∀ d ∈ (c :: rest).reverse.head?, isBlank d = false := by
      rw [List.head?_reverse]
      exact trimmed.2
    rw [trimChars, front, trimEndChars, List.reverse_append, List.dropWhile_append_of_pos back,
      dropWhile_isBlank_eq_self last, List.reverse_reverse]

theorem isEmpty_trim (s : String) : (trim s).isEmpty = isBlankText s := by
  rw [Bool.eq_iff_iff, String.isEmpty_iff, ← String.toList_eq_nil_iff, toList_trim, trimChars_eq_nil_iff, isBlankText,
    List.all_eq_true]

end Allotment.Text
