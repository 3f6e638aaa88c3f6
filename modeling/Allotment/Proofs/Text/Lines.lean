import Allotment.Text.Blank
import Allotment.Text.Lines

/-!
# Texts put together from lines

* what trimming leaves does not depend on white space around a text (`trimChars_append_blank`), and a character that is
  not blank parts what is trimmed in front from what is trimmed at the end (`trimChars_append`);
* a text may be put together from lines with any line ends (`MadeOf`), as it is from the lines that are found in it
  (`madeOf_lineChars`), from lines that are joined (`madeOf_intercalate`) and from the lines of its parts
  (`MadeOf.append`);
* the lines that are found in it are those, but for white space and lines that tell nothing (`filter_lineChars`).
-/

namespace Allotment.Text

/-! ## Trimming -/

/-- White space around a text is no part of what trimming leaves. -/
theorem trimChars_append_blank {before after : List Char} (blankBefore : ∀ c ∈ before, isBlank c = true)
    (cs : List Char) (blankAfter : ∀ c ∈ after, isBlank c = true) :
    trimChars (before ++ cs ++ after) = trimChars cs := by
  obtain ⟨front, back, whole, blankFront, blankBack⟩ := exists_around_trimChars cs
  have regrouped : before ++ cs ++ after = (before ++ front) ++ trimChars cs ++ (back ++ after) := by
    rw [congrArg (before ++ · ++ after) whole]
    simp only [List.append_assoc]
  rw [regrouped]
  refine trimChars_around ?_ (trimmed_trimChars cs) ?_
  · intro c mem
    exact (List.mem_append.mp mem).elim (blankBefore c) (blankFront c)
  · intro c mem
    exact (List.mem_append.mp mem).elim (blankBack c) (blankAfter c)

theorem dropWhile_isBlank_append {c : Char} (visible : isBlank c = false) (first second : List Char) :
    (first ++ c :: second).dropWhile isBlank = first.dropWhile isBlank ++ c :: second := by
  induction first with
  | nil => simp [visible]
  | cons d first ih =>
    by_cases blank : isBlank d = true
    · simp [blank, ih]
    · simp [blank]

/-- A character that is not blank keeps what stands before it from being trimmed at the end. -/
theorem trimEndChars_append {c : Char} (visible : isBlank c = false) (first second : List Char) :
    trimEndChars (first ++ c :: second) = first ++ c :: trimEndChars second := by
  rw [trimEndChars, List.reverse_append, List.reverse_cons, List.append_assoc, List.singleton_append,
    dropWhile_isBlank_append visible]
  simp [trimEndChars]

/-- A character that is not blank parts what is trimmed in front from what is trimmed at the end. -/
theorem trimChars_append {c : Char} (visible : isBlank c = false) (first second : List Char) :
    trimChars (first ++ c :: second) = first.dropWhile isBlank ++ c :: trimEndChars second := by
  rw [trimChars, dropWhile_isBlank_append visible, trimEndChars_append visible]

/-- What is left of a text starts where trimming in front stops. -/
theorem head?_trimChars (cs : List Char) : (trimChars cs).head? = (cs.dropWhile isBlank).head? := by
  rw [trimChars]
  cases left : cs.dropWhile isBlank with
  | nil => rfl
  | cons c rest =>
    have visible := head?_dropWhile_isBlank cs c (by rw [left]; rfl)
    rw [← List.nil_append (c :: rest), trimEndChars_append visible]
    rfl

theorem trimChars_dropWhile (cs : List Char) : trimChars (cs.dropWhile isBlank) = trimChars cs := by
  have blank : ∀ c ∈ cs.takeWhile isBlank, isBlank c = true := List.all_eq_true.mp List.all_takeWhile
  have none : ∀ c ∈ ([] : List Char), isBlank c = true := nofun
  have whole := trimChars_append_blank blank (cs.dropWhile isBlank) none
  rw [List.append_nil, List.takeWhile_append_dropWhile] at whole
  exact whole.symm

theorem trimChars_trimEndChars (cs : List Char) : trimChars (trimEndChars cs) = trimChars cs := by
  have blank : ∀ c ∈ (cs.reverse.takeWhile isBlank).reverse, isBlank c = true := by
    intro c mem
    exact List.all_eq_true.mp List.all_takeWhile c (List.mem_reverse.mp mem)
  have none : ∀ c ∈ ([] : List Char), isBlank c = true := nofun
  have whole := trimChars_append_blank none (trimEndChars cs) blank
  rw [List.nil_append, trimEndChars, ← List.reverse_append, List.takeWhile_append_dropWhile,
    List.reverse_reverse] at whole
  exact whole.symm

theorem trim_trim (s : String) : trim (trim s) = trim s := by
  rw [trim, toList_trim, trimChars_eq_self (trimmed_trimChars _), trim]

theorem isBlankText_trim (s : String) : isBlankText (trim s) = isBlankText s := by
  rw [← isEmpty_trim, trim_trim, isEmpty_trim]

/-! ## Lines -/

/-- A line is read up to its line feed. -/
theorem linesFrom_append {line : List Char} (whole : '\n' ∉ line) (pending rest : List Char) :
    linesFrom pending (line ++ '\n' :: rest) = finishLine (line.reverse ++ pending) :: linesFrom [] rest := by
  induction line generalizing pending with
  | nil => simp [linesFrom]
  | cons c line ih =>
    rw [List.mem_cons, not_or] at whole
    rw [List.cons_append, linesFrom, if_neg (Ne.symm whole.1), ih whole.2]
    simp

/-- What comes after the last line feed is a line unless it is empty. -/
theorem linesFrom_last {line : List Char} (whole : '\n' ∉ line) (pending : List Char) :
    linesFrom pending line = if (line.reverse ++ pending).isEmpty then [] else [(line.reverse ++ pending).reverse] := by
  induction line generalizing pending with
  | nil => rfl
  | cons c line ih =>
    rw [List.mem_cons, not_or] at whole
    rw [linesFrom, if_neg (Ne.symm whole.1), ih whole.2]
    simp

/-- White space at the end of a line is not told from its line end. -/
theorem trimChars_finishLine (pending : List Char) : trimChars (finishLine pending) = trimChars pending.reverse := by
  unfold finishLine
  split
  case h_1 rest =>
    have blank : ∀ c ∈ ['\r'], isBlank c = true := List.forall_mem_singleton.mpr (by decide)
    have none : ∀ c ∈ ([] : List Char), isBlank c = true := nofun
    have whole := trimChars_append_blank none rest.reverse blank
    rw [List.reverse_cons]
    exact whole.symm
  case h_2 => rfl

/-- A text is made of lines: each has a line end of one kind or the other, but the last one may be without. -/
inductive MadeOf : List (List Char) → List Char → Prop
  | nil : MadeOf [] []
  | last {line : List Char} : '\n' ∉ line → MadeOf [line] line
  | cons {line ending rest : List Char} {lines : List (List Char)} : '\n' ∉ line → ending ∈ [['\n'], ['\r', '\n']] →
    MadeOf lines rest → MadeOf (line :: lines) (line ++ ending ++ rest)

theorem MadeOf.not_mem {lines : List (List Char)} {cs : List Char} (made : MadeOf lines cs) :
    ∀ line ∈ lines, '\n' ∉ line := by
  induction made with
  | nil => exact nofun
  | last whole => exact List.forall_mem_singleton.mpr whole
  | cons whole _ _ ih => exact List.forall_mem_cons.mpr ⟨whole, ih⟩

/-- A line with a line feed behind it, in front of lines. -/
theorem MadeOf.feed {line rest : List Char} {lines : List (List Char)} (whole : '\n' ∉ line)
    (made : MadeOf lines rest) : MadeOf (line :: lines) (line ++ '\n' :: rest) := by
  have added : MadeOf (line :: lines) (line ++ ['\n'] ++ rest) := .cons whole List.mem_cons_self made
  rwa [List.append_assoc, List.singleton_append] at added

/-- Two texts with a line feed between are made of the lines of both; if the first one ends with a line end, there is an
empty line between. -/
theorem MadeOf.append {first second : List (List Char)} {cs cs' : List Char} (made : MadeOf first cs)
    (made' : MadeOf second cs') : ∃ between ∈ [[], [[]]], MadeOf (first ++ between ++ second) (cs ++ '\n' :: cs') := by
  induction made with
  | nil => exact ⟨[[]], by simp, made'.feed List.not_mem_nil⟩
  | last whole => exact ⟨[], by simp, made'.feed whole⟩
  | cons whole kind _ ih =>
    obtain ⟨between, known, made⟩ := ih
    refine ⟨between, known, ?_⟩
    rw [List.append_assoc _ _ ('\n' :: cs')]
    exact .cons whole kind made

/-- Lines that are joined with a line end make a text, with or without one more at the end. -/
theorem madeOf_intercalate {lines : List (List Char)} (whole : ∀ line ∈ lines, '\n' ∉ line) (nonempty : lines ≠ [])
    {ending final : List Char} (kind : ending ∈ [['\n'], ['\r', '\n']]) (ends : final = [] ∨ final = ending) :
    MadeOf lines (ending.intercalate lines ++ final) := by
  induction lines with
  | nil => exact absurd rfl nonempty
  | cons line lines ih =>
    rw [List.forall_mem_cons] at whole
    cases lines with
    | nil =>
      rw [List.intercalate_singleton]
      rcases ends with rfl | rfl
      · rw [List.append_nil]
        exact .last whole.1
      · rw [← List.append_nil (line ++ final)]
        exact .cons whole.1 kind .nil
    | cons next lines =>
      rw [List.intercalate_cons_cons, List.append_assoc (line ++ ending)]
      exact .cons whole.1 kind (ih whole.2 (List.cons_ne_nil _ _))

/-- The lines that are found in a text are lines that it is made of. -/
theorem madeOf_linesFrom {pending : List Char} (whole : '\n' ∉ pending) (cs : List Char) :
    MadeOf (linesFrom pending cs) (pending.reverse ++ cs) := by
  induction cs generalizing pending with
  | nil =>
    rw [linesFrom, List.append_nil]
    split
    case isTrue empty =>
      rw [List.isEmpty_iff.mp empty]
      exact .nil
    case isFalse => exact .last (by rwa [List.mem_reverse])
  | cons c rest ih =>
    rw [linesFrom]
    split
    case isTrue feed =>
      subst feed
      have behind : MadeOf (linesFrom [] rest) rest := ih List.not_mem_nil
      unfold finishLine
      split
      case h_1 before =>
        -- the carriage return before the line feed belongs to the line end
        rw [List.mem_cons, not_or] at whole
        have made : MadeOf (before.reverse :: linesFrom [] rest) (before.reverse ++ ['\r', '\n'] ++ rest) :=
          .cons (by rw [List.mem_reverse]; exact whole.2) (by simp) behind
        simpa using made
      case h_2 => exact behind.feed (by rwa [List.mem_reverse])
    case isFalse other =>
      have noFeed : '\n' ∉ c :: pending := by simp [Ne.symm other, whole]
      have longer := ih noFeed
      simpa using longer

theorem madeOf_lineChars (cs : List Char) : MadeOf (lineChars cs) cs :=
  madeOf_linesFrom List.not_mem_nil cs

/-- Whether a line without white space at its ends tells anything: it is neither empty nor a comment. -/
def tells (line : List Char) : Bool :=
  !line.isEmpty && line.head? != some '#'

/-- **The lines of a text are those it is made of**, as far as they tell anything. -/
theorem filter_lineChars {lines : List (List Char)} {cs : List Char} (made : MadeOf lines cs) :
    ((lineChars cs).map trimChars).filter tells = (lines.map trimChars).filter tells := by
  induction made with
  | nil => rfl
  | @last line whole =>
    rw [lineChars, linesFrom_last whole]
    simp only [List.append_nil, List.isEmpty_reverse, List.reverse_reverse]
    split
    case isTrue empty =>
      rw [List.isEmpty_iff.mp empty]
      rfl
    case isFalse => rfl
  | @cons line ending rest lines whole kind made ih =>
    have first : ∃ before, '\n' ∉ before ∧ line ++ ending ++ rest = before ++ '\n' :: rest ∧
        trimChars (finishLine before.reverse) = trimChars line := by
      simp only [List.mem_cons, List.not_mem_nil, or_false] at kind
      rcases kind with rfl | rfl
      · exact ⟨line, whole, by simp, by rw [trimChars_finishLine, List.reverse_reverse]⟩
      · refine ⟨line ++ ['\r'], by simp [whole], by simp, ?_⟩
        rw [List.reverse_append, List.reverse_singleton, List.singleton_append]
        simp [finishLine]
    obtain ⟨before, noFeed, spelled, same⟩ := first
    rw [lineChars, spelled, linesFrom_append noFeed, List.append_nil, List.map_cons, same, List.map_cons]
    simp only [List.filter_cons, ← ih, lineChars]

end Allotment.Text
