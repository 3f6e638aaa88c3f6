/-!
# Lines of a text

A line ends at a line feed, and one carriage return just before the line feed belongs to the line end. What follows
the last line feed is a line of its own unless it is empty.

A text is also cut into pieces, at every occurrence of a separator (`splitChars_eq_iff`).
-/

namespace Allotment.Text

/-- A line read so far, last character first, once its line feed has been met. -/
def finishLine : List Char → List Char
  | '\r' :: rest => rest.reverse
  | chars => chars.reverse

/-- The lines of a text, `pending` being the part of the current line already read, last character first. -/
def linesFrom (pending : List Char) : List Char → List (List Char)
  | [] => if pending.isEmpty then [] else [pending.reverse]
  | c :: rest => if c = '\n' then finishLine pending :: linesFrom [] rest else linesFrom (c :: pending) rest

/-- The lines of a text given as characters. -/
def lineChars (cs : List Char) : List (List Char) :=
  linesFrom [] cs

/-- The pieces of a text between occurrences of a separator: the first one, and those after it. -/
def splitChars (separator : Char) : List Char → List Char × List (List Char)
  | [] => ([], [])
  | c :: rest =>
    let (piece, pieces) := splitChars separator rest
    if c = separator then ([], piece :: pieces) else (c :: piece, pieces)

variable {separator : Char}

theorem splitChars_separator (rest : List Char) :
    splitChars separator (separator :: rest) = ([], (splitChars separator rest).1 :: (splitChars separator rest).2) :=
  if_pos rfl

theorem splitChars_cons_of_ne {c : Char} (other : c ≠ separator) (rest : List Char) :
    splitChars separator (c :: rest) = (c :: (splitChars separator rest).1, (splitChars separator rest).2) :=
  if_neg other

/-- There are as many separators as pieces after the first. -/
theorem length_splitChars (cs : List Char) : (splitChars separator cs).2.length = cs.count separator := by
  induction cs with
  | nil => rfl
  | cons c rest ih =>
    by_cases same : c = separator
    case pos =>
      subst same
      rw [splitChars_separator, List.length_cons, ih, List.count_cons_self]
    case neg => rw [splitChars_cons_of_ne same, ih, List.count_cons_of_ne same]

/-- What holds no separator belongs to the first piece. -/
theorem splitChars_append {piece : List Char} (whole : separator ∉ piece) (rest : List Char) :
    splitChars separator (piece ++ rest) = (piece ++ (splitChars separator rest).1, (splitChars separator rest).2) := by
  induction piece with
  | nil => rfl
  | cons c piece ih =>
    rw [List.mem_cons, not_or] at whole
    rw [List.cons_append, splitChars_cons_of_ne (Ne.symm whole.1), ih whole.2]
    rfl

/-- Pieces put together with separators between are cut apart again. -/
theorem splitChars_joined {first : List Char} {others : List (List Char)}
    (whole : ∀ piece ∈ first :: others, separator ∉ piece) :
    splitChars separator (first ++ others.flatMap (separator :: ·)) = (first, others) := by
  induction others generalizing first with
  | nil =>
    rw [splitChars_append (whole first List.mem_cons_self)]
    exact congrArg (·, []) (List.append_nil first)
  | cons second others ih =>
    rw [splitChars_append (whole first List.mem_cons_self), List.flatMap_cons, List.cons_append, splitChars_separator,
      ih fun piece mem => whole piece (List.mem_cons_of_mem _ mem), List.append_nil]

/-- **Splitting cuts at every separator.** -/
theorem splitChars_eq_iff {cs first : List Char} {others : List (List Char)} :
    splitChars separator cs = (first, others) ↔
      cs = first ++ others.flatMap (separator :: ·) ∧ ∀ piece ∈ first :: others, separator ∉ piece := by
  constructor
  · intro split
    induction cs generalizing first others with
    | nil =>
      obtain ⟨rfl, rfl⟩ := Prod.mk.inj split
      exact ⟨rfl, by simp⟩
    | cons c rest ih =>
      obtain ⟨joined, whole⟩ := ih rfl
      by_cases same : c = separator
      case pos =>
        subst same
        rw [splitChars_separator] at split
        obtain ⟨rfl, rfl⟩ := Prod.mk.inj split
        exact ⟨congrArg (c :: ·) joined, List.forall_mem_cons.mpr ⟨List.not_mem_nil, whole⟩⟩
      case neg =>
        rw [splitChars_cons_of_ne same] at split
        obtain ⟨rfl, rfl⟩ := Prod.mk.inj split
        rw [List.forall_mem_cons] at whole
        refine ⟨congrArg (c :: ·) joined, List.forall_mem_cons.mpr ⟨?_, whole.2⟩⟩
        exact List.not_mem_cons_of_ne_of_not_mem (Ne.symm same) whole.1
  · rintro ⟨rfl, whole⟩
    exact splitChars_joined whole

end Allotment.Text
