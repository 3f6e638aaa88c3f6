import Mathlib.Data.List.DropRight
import Allotment.Proofs.Files.Directories

/-!
# The directory that a file is in

The parent of a path is a beginning of its text (`Path.parent_begins`) and makes all steps of the path but the last one
(`Path.steps_parent`). So the parent of a path to a file is the path of a directory (`FileTree.isDirectory_parent`), and
so are all paths above it (`FileTree.isDirectory_ancestors`).
-/

namespace Allotment

namespace Path

/-! ## Steps -/

/-- The pieces between slashes that lead anywhere. -/
def stepChars (cs : List Char) : List (List Char) :=
  ((Text.splitChars '/' cs).1 :: (Text.splitChars '/' cs).2).filter (!isIdle ·)

/-- The steps that a path makes: its pieces without steps in place. -/
def steps (p : Path) : List String :=
  (stepChars p.text.toList).map String.ofList

theorem filter_pieces (p : Path) : p.pieces.filter (· ≠ ".") = p.steps := by
  rw [steps, stepChars, pieces, List.filter_map, List.filter_filter]
  refine congrArg _ (List.filter_congr fun piece _ => ?_)
  have dot : (String.ofList piece = ".") = (piece = ['.']) := by
    rw [← String.toList_inj, String.toList_ofList]
    rfl
  show (decide (String.ofList piece ≠ ".") && !piece.isEmpty) = !isIdle piece
  simp only [ne_eq, dot, isIdle]
  cases piece <;> simp

theorem intercalate_cons (separator : Char) (first : List Char) (others : List (List Char)) :
    [separator].intercalate (first :: others) = first ++ others.flatMap (separator :: ·) := by
  induction others generalizing first with
  | nil => rw [List.intercalate_singleton, List.flatMap_nil, List.append_nil]
  | cons second others ih =>
    rw [List.intercalate_cons_cons, ih, List.append_assoc, List.flatMap_cons, List.singleton_append, List.cons_append]

/-- Fewer pieces make a beginning of the text. -/
theorem intercalate_of_begins {separator : Char} {fewer pieces : List (List Char)} (front : fewer <+: pieces) :
    [separator].intercalate fewer <+: [separator].intercalate pieces := by
  obtain ⟨more, rfl⟩ := front
  cases fewer with
  | nil => exact List.nil_prefix
  | cons first others =>
    rw [List.cons_append, intercalate_cons, intercalate_cons, List.flatMap_append, ← List.append_assoc]
    exact List.prefix_append _ _

theorem stepChars_intercalate {pieces : List (List Char)} (whole : ∀ piece ∈ pieces, '/' ∉ piece) :
    stepChars (['/'].intercalate pieces) = pieces.filter (!isIdle ·) := by
  cases pieces with
  | nil => rfl
  | cons first others => rw [intercalate_cons, stepChars, Text.splitChars_joined whole]

/-! ## The start of a path -/

/-- The start of a path belongs to no step, and a slash follows a step in place. -/
def IsStart (start body : List Char) : Prop :=
  start = [] ∨ start = ['/'] ∨ start = ['.'] ∧ ∀ c rest, body = c :: rest → c = '/'

theorem splitStart_spec (cs : List Char) :
    cs = (splitStart cs).1 ++ (splitStart cs).2 ∧ IsStart (splitStart cs).1 (splitStart cs).2 := by
  unfold splitStart
  split
  case h_1 rest => exact ⟨rfl, .inr (.inl rfl)⟩
  case h_2 rest => exact ⟨rfl, .inr (.inr ⟨rfl, fun _ _ same => (List.cons.inj same).1.symm⟩)⟩
  case h_3 => exact ⟨rfl, .inr (.inr ⟨rfl, nofun⟩)⟩
  case h_4 => exact ⟨rfl, .inl rfl⟩

theorem IsStart.of_begins {start body front : List Char} (isStart : IsStart start body) (begins : front <+: body) :
    IsStart start front := by
  rcases isStart with rfl | rfl | ⟨rfl, slash⟩
  · exact .inl rfl
  · exact .inr (.inl rfl)
  · obtain ⟨more, rfl⟩ := begins
    exact .inr (.inr ⟨rfl, fun c rest same => slash c (rest ++ more) (congrArg (· ++ more) same)⟩)

theorem IsStart.stepChars_append {start body : List Char} (isStart : IsStart start body) :
    stepChars (start ++ body) = stepChars body := by
  rcases isStart with rfl | rfl | ⟨rfl, slash⟩
  · rfl
  · rw [stepChars, List.singleton_append, Text.splitChars_separator]
    rfl
  · cases body with
    | nil => rfl
    | cons c rest =>
      obtain rfl := slash c rest rfl
      rw [stepChars, List.singleton_append, Text.splitChars_cons_of_ne (by decide), Text.splitChars_separator,
        stepChars, Text.splitChars_separator]
      rfl

/-! ## Parents -/

/-- What is dropped at the end would not have been kept. -/
theorem filter_rdropWhile {α : Type} (p : α → Bool) (l : List α) :
    (l.rdropWhile p).filter (!p ·) = l.filter (!p ·) := by
  induction l using List.reverseRecOn with
  | nil => rfl
  | append_singleton l a ih =>
    rw [List.rdropWhile_concat]
    split
    case isTrue holds => simp [ih, holds]
    case isFalse => rfl

/-- The pieces before the last one that leads anywhere. -/
def piecesAbove (pieces : List (List Char)) : List (List Char) :=
  dropIdleEnd (dropIdleEnd pieces).dropLast

theorem piecesAbove_begins (pieces : List (List Char)) : piecesAbove pieces <+: pieces :=
  (List.rdropWhile_prefix isIdle _).trans ((List.dropLast_prefix _).trans (List.rdropWhile_prefix isIdle _))

theorem filter_piecesAbove (pieces : List (List Char)) :
    (piecesAbove pieces).filter (!isIdle ·) = (pieces.filter (!isIdle ·)).dropLast := by
  have steps := filter_rdropWhile isIdle pieces
  have above := filter_rdropWhile isIdle (pieces.rdropWhile isIdle).dropLast
  show ((pieces.rdropWhile isIdle).dropLast.rdropWhile isIdle).filter (!isIdle ·) = _
  rw [above, ← steps]
  by_cases none : pieces.rdropWhile isIdle = []
  case pos => rw [none]; rfl
  case neg =>
    have leads := Bool.eq_false_iff.mpr (List.rdropWhile_last_not isIdle pieces none)
    conv_rhs => rw [← List.dropLast_concat_getLast none]
    rw [List.filter_append, List.filter_singleton, leads]
    exact List.dropLast_concat.symm

/-- The text of a parent, unless it is the empty one. -/
theorem exists_parent {p parent : Path} (above : p.parent? = some parent) (named : parent.text ≠ "") :
    ∃ start pieces, IsStart start (['/'].intercalate pieces) ∧ (∀ piece ∈ pieces, '/' ∉ piece) ∧
      p.text.toList = start ++ ['/'].intercalate pieces ∧
      parent.text.toList = start ++ ['/'].intercalate (piecesAbove pieces) := by
  obtain ⟨whole, isStart⟩ := splitStart_spec p.text.toList
  obtain ⟨joined, pieces⟩ := Text.splitChars_eq_iff.mp (rfl : Text.splitChars '/' (splitStart p.text.toList).2 = (_, _))
  rw [← intercalate_cons] at joined
  rw [joined] at whole isStart
  refine ⟨_, _, isStart, pieces, whole, ?_⟩
  simp only [parent?] at above
  split at above
  case h_1 none =>
    split at above
    case isTrue =>
      cases above
      exact absurd rfl named
    case isFalse => cases above
  case h_2 =>
    cases above
    exact String.toList_ofList

variable {p parent : Path} (above : p.parent? = some parent) (named : parent.text ≠ "")
include above named

/-- **A parent is a beginning of the path.** -/
theorem parent_begins : parent.text.toList <+: p.text.toList := by
  obtain ⟨start, pieces, -, -, whole, text⟩ := exists_parent above named
  rw [whole, text]
  exact (List.prefix_append_right_inj start).mpr (intercalate_of_begins (piecesAbove_begins pieces))

/-- **A parent makes all steps but the last one.** -/
theorem steps_parent : parent.steps = p.steps.dropLast := by
  obtain ⟨start, pieces, isStart, whole, text, textAbove⟩ := exists_parent above named
  have front := piecesAbove_begins pieces
  have wholeAbove : ∀ piece ∈ piecesAbove pieces, '/' ∉ piece := fun piece mem => whole piece (front.subset mem)
  rw [steps, steps, textAbove, text, isStart.stepChars_append,
    (isStart.of_begins (intercalate_of_begins front)).stepChars_append, stepChars_intercalate whole,
    stepChars_intercalate wholeAbove, filter_piecesAbove, List.map_dropLast]

end Path

namespace FileTree

variable {tree : FileTree} {path parent : Path}

/-- A step in place stays where it is. -/
theorem foldlM_enter_filter (tree : FileTree) (pieces : List String) (place : Location) :
    (pieces.filter (· ≠ ".")).foldlM tree.enter place = pieces.foldlM tree.enter place := by
  induction pieces generalizing place with
  | nil => rfl
  | cons piece pieces ih =>
    by_cases idle : piece = "."
    case pos =>
      subst idle
      exact ih place
    case neg =>
      rw [List.filter_cons_of_pos (by simpa using idle), List.foldlM_cons, List.foldlM_cons]
      exact bind_congr ih

/-- What is entered is a step away, and a directory unless it is a step in place or up. -/
theorem enter_eq_ok {place there : Location} {piece : String} (entered : tree.enter place piece = .ok there) :
    (piece = "." ∨ piece = "..") ∨
      (piece ≠ "." ∧ piece ≠ "..") ∧ child place piece = .ok there ∧ tree.find? there = some .directory := by
  unfold enter at entered
  split at entered
  case isTrue here => exact .inl (.inl here)
  case isFalse away =>
    split at entered
    case isTrue up => exact .inl (.inr up)
    case isFalse down =>
      obtain ⟨held, named, found⟩ := bind_eq_ok_iff.mp entered
      cases entry : tree.find? held with
      | none => rw [entry] at found; cases found
      | some entry' =>
        rw [entry] at found
        cases entry' with
        | file contents => cases found
        | directory =>
          cases found
          exact .inr ⟨⟨away, down⟩, named, entry⟩

/-- A path leads to a directory if all its steps do. -/
theorem isDirectory_of_walked {place : Location} (noZero : ¬path.holdsZero) (nonempty : ¬path.text.isEmpty)
    (short : ¬4096 ≤ path.text.utf8ByteSize)
    (walked : path.pieces.foldlM tree.enter (if path.isAbsolute then [] else tree.current) = .ok place) :
    tree.isDirectory path = true := by
  have sound := And.intro noZero (And.intro nonempty short)
  refine isDirectory_iff.mpr ⟨place, resolve_eq_ok_iff.mpr ?_⟩
  rcases List.eq_nil_or_concat' path.pieces with none | ⟨front, last, pieces⟩
  · rw [none] at walked
    have leads : tree.target path = .ok (.unnamed place) :=
      target_eq_ok_iff.mpr ⟨sound, .inl ⟨none, congrArg _ (Except.ok.inj walked).symm⟩⟩
    exact .inl ⟨leads, rfl⟩
  · rw [pieces, List.foldlM_append] at walked
    obtain ⟨directory, walked, entered⟩ := bind_eq_ok_iff.mp walked
    rw [List.foldlM_cons] at entered
    obtain ⟨there, entered, ⟨⟩⟩ := bind_eq_ok_iff.mp entered
    rcases enter_eq_ok entered with step | ⟨⟨away, down⟩, named, found⟩
    · have leads : tree.target path = .ok (.unnamed place) :=
        target_eq_ok_iff.mpr ⟨sound, .inr ⟨front, last, directory, pieces, walked, .inl ⟨step, place, entered, rfl⟩⟩⟩
      exact .inl ⟨leads, rfl⟩
    · have name := not_or.mpr ⟨away, down⟩
      have leads : tree.target path = .ok (.named directory last path.endsInSlash) :=
        target_eq_ok_iff.mpr ⟨sound, .inr ⟨front, last, directory, pieces, walked, .inr ⟨name, rfl⟩⟩⟩
      exact .inr ⟨directory, last, path.endsInSlash, leads, named, found, fun _ => rfl⟩

/-- A path to a file names it in a directory that all steps before the last one lead to. -/
theorem walked_of_resolve {place : Location} {contents : ByteArray}
    (found : tree.resolve path = .ok (place, .file contents)) :
    (¬path.holdsZero ∧ ¬path.text.isEmpty ∧ ¬4096 ≤ path.text.utf8ByteSize) ∧
      ∃ parent name, tree.target path = .ok (.named parent name false) ∧ child parent name = .ok place ∧
        tree.find? place = some (.file contents) ∧
        path.steps.dropLast.foldlM tree.enter (if path.isAbsolute then [] else tree.current) = .ok parent := by
  rcases resolve_eq_ok_iff.mp found with ⟨-, ⟨⟩⟩ | ⟨parent, name, slash, leads, named, held, trailing⟩
  have noSlash : slash = false := by
    cases slash with
    | true => cases trailing rfl
    | false => rfl
  obtain ⟨sound, ⟨-, ⟨⟩⟩ | ⟨front, last, directory, pieces, walked, ends⟩⟩ := target_eq_ok_iff.mp leads
  rcases ends with ⟨-, -, -, ⟨⟩⟩ | ⟨away, given⟩
  obtain ⟨rfl, rfl, -⟩ := Target.named.inj given
  refine ⟨sound, parent, name, noSlash ▸ leads, named, held, ?_⟩
  have away : name ≠ "." := fun here => away (.inl here)
  rw [← Path.filter_pieces, pieces, List.filter_append, List.filter_cons_of_pos (by simpa using away), List.filter_nil,
    List.dropLast_concat, foldlM_enter_filter]
  exact walked

/-- What lets a path be looked at in any tree. -/
def Sound (path : Path) : Prop :=
  ¬path.holdsZero ∧ ¬path.text.isEmpty ∧ ¬4096 ≤ path.text.utf8ByteSize

/-- Where all steps of a path but the last one lead, its parent leads. -/
theorem isDirectory_parent_of_walked {directory : Location} (sound : Sound path)
    (walked : path.steps.dropLast.foldlM tree.enter (if path.isAbsolute then [] else tree.current) = .ok directory)
    (above : path.parent? = some parent) (named : parent.text ≠ "") : tree.isDirectory parent = true := by
  obtain ⟨noZero, nonempty, short⟩ := sound
  rw [← Path.steps_parent above named, ← Path.filter_pieces, foldlM_enter_filter] at walked
  obtain ⟨more, front⟩ := Path.parent_begins above named
  have whole : path.text = parent.text ++ String.ofList more := by
    rw [← String.toList_inj, String.toList_append, String.toList_ofList, front]
  have same : parent.isAbsolute = path.isAbsolute := by
    rw [Path.isAbsolute, Path.isAbsolute, ← front]
    cases start : parent.text.toList with
    | nil => exact absurd (String.toList_eq_nil_iff.mp start) named
    | cons c rest => rfl
  rw [← same] at walked
  refine isDirectory_of_walked ?_ ?_ ?_ walked
  · intro zero
    refine noZero ?_
    rw [Path.holdsZero, List.contains_iff_mem] at zero ⊢
    rw [← front]
    exact List.mem_append_left more zero
  · simpa using named
  · rw [whole, String.utf8ByteSize_append] at short
    omega

/-- **A file is in the directory at the parent of its path.** -/
theorem isDirectory_parent {place : Location} {contents : ByteArray}
    (found : tree.resolve path = .ok (place, .file contents)) (above : path.parent? = some parent)
    (named : parent.text ≠ "") : tree.isDirectory parent = true := by
  obtain ⟨sound, directory, name, -, -, -, walked⟩ := walked_of_resolve found
  exact isDirectory_parent_of_walked sound walked above named

/-- A path to a directory makes steps from directory to directory. -/
theorem walked_of_isDirectory (there : tree.isDirectory path = true) :
    Sound path ∧ ∃ place,
      path.pieces.foldlM tree.enter (if path.isAbsolute then [] else tree.current) = .ok place := by
  obtain ⟨place, resolved⟩ := isDirectory_iff.mp there
  rcases resolve_eq_ok_iff.mp resolved with ⟨leads, -⟩ | ⟨parent, name, slash, leads, named, held, -⟩
  · obtain ⟨sound, ⟨none, -⟩ | ⟨front, last, directory, pieces, walked, ends⟩⟩ := target_eq_ok_iff.mp leads
    · exact ⟨sound, _, by rw [none]; rfl⟩
    · rcases ends with ⟨-, there, entered, -⟩ | ⟨-, ⟨⟩⟩
      refine ⟨sound, there, ?_⟩
      rw [pieces, List.foldlM_append, walked, ok_bind, List.foldlM_cons, entered]
      rfl
  · obtain ⟨sound, ⟨-, ⟨⟩⟩ | ⟨front, last, directory, pieces, walked, ends⟩⟩ := target_eq_ok_iff.mp leads
    rcases ends with ⟨-, -, -, ⟨⟩⟩ | ⟨away, given⟩
    obtain ⟨rfl, rfl, -⟩ := Target.named.inj given
    refine ⟨sound, place, ?_⟩
    have step : tree.enter parent name = .ok place := by
      rw [enter, if_neg fun here => away (.inl here), if_neg fun up => away (.inr up), named, ok_bind, held]
      rfl
    rw [pieces, List.foldlM_append, walked, ok_bind, List.foldlM_cons, step]
    rfl

/-- A front part of steps that lead somewhere leads somewhere. -/
theorem walked_dropLast {steps : List String} {start place : Location}
    (walked : steps.foldlM tree.enter start = .ok place) :
    ∃ there, steps.dropLast.foldlM tree.enter start = .ok there := by
  rcases List.eq_nil_or_concat' steps with rfl | ⟨front, last, rfl⟩
  · exact ⟨place, walked⟩
  · rw [List.foldlM_append] at walked
    obtain ⟨there, walked, -⟩ := bind_eq_ok_iff.mp walked
    exact ⟨there, by rwa [List.dropLast_concat]⟩

/-- **Above a directory there are directories.** -/
theorem isDirectory_ancestors (there : tree.isDirectory path = true) :
    ∀ above ∈ path.ancestors, tree.isDirectory above = true := by
  suffices upTo : ∀ count (path : Path), tree.isDirectory path = true →
      ∀ above ∈ path.ancestorsUpTo count, tree.isDirectory above = true from upTo _ path there
  intro count
  induction count with
  | zero => exact fun _ _ _ => nofun
  | succ count ih =>
    intro path there above mem
    unfold Path.ancestorsUpTo at mem
    cases next : path.parent? with
    | none => rw [next] at mem; cases mem
    | some parent =>
      rw [next] at mem
      rcases List.mem_cons.mp mem with rfl | mem
      · exact there
      · by_cases named : parent.text = ""
        case pos =>
          -- nothing is above the empty path
          obtain rfl : parent = ⟨""⟩ := by cases parent; exact congrArg Path.mk named
          cases count with
          | zero => cases mem
          | succ count => cases mem
        case neg =>
          obtain ⟨sound, place, walked⟩ := walked_of_isDirectory there
          rw [← foldlM_enter_filter, Path.filter_pieces] at walked
          obtain ⟨directory, walked⟩ := walked_dropLast walked
          exact ih parent (isDirectory_parent_of_walked sound walked next named) above mem

/-- A file that is there can be written in place. -/
theorem writePlace_of_resolve {place : Location} {contents : ByteArray}
    (found : tree.resolve path = .ok (place, .file contents)) : tree.writePlace path = .ok place := by
  obtain ⟨-, directory, name, leads, named, entry, -⟩ := walked_of_resolve found
  refine writePlace_eq_ok_iff.mpr ⟨directory, name, leads, named, ?_⟩
  rw [entry]
  exact nofun

theorem resolve_of_read {contents : ByteArray} (there : tree.read path = .ok contents) :
    ∃ place, tree.resolve path = .ok (place, .file contents) := by
  obtain ⟨⟨place, entry⟩, resolved, there⟩ := bind_eq_ok_iff.mp there
  cases entry with
  | directory => cases there
  | file contents' =>
    cases there
    exact ⟨place, resolved⟩

end FileTree

end Allotment
