import Allotment.Proofs.Json.Plain
import Allotment.Proofs.Points.Csv
import Allotment.Proofs.Points.Entries
import Allotment.Proofs.Text.Lines

/-!
# The same points as pairs, as an object and as lines

* `Table.Listing`: a text lists pairs, one a line, with any line ends and any white space around the fields; there may be
  blank lines and comments anywhere, and a header in front of the first row;
* `Table.ofPairs_ofJson_ofCsv`: the pairs, the object with these members and every such text give one table, or fail at
  the same key.

A line of two fields keeps them when it is trimmed (`columns_trimChars`). So the lines that tell anything show the pairs
(`shows_of_lists`, `shows_of_sheet`), and a text is read as its pairs are, but for white space around their keys
(`ofCsv_of_listing`), which makes no difference to what a key denotes.
-/

namespace Allotment.Points.Table

open Text (MadeOf tells trimChars)

/-! ## Texts that list pairs -/

/-- The keys of pairs are such that they can be listed in lines and told from a header and from comments. -/
structure Listable (pairs : List (String × UInt64)) : Prop where
  distinct : (pairs.map Prod.fst).Nodup
  commas : ∀ pair ∈ pairs, ',' ∉ pair.1.toList
  lineFeeds : ∀ pair ∈ pairs, '\n' ∉ pair.1.toList
  comments : ∀ pair ∈ pairs, (Text.trim pair.1).toList.head? ≠ some '#'
  header : ∀ pair ∈ pairs.head?, isHeader (Text.trim pair.1) = false

/-- There is nothing but white space. -/
def Blank (cs : List Char) : Prop :=
  ∀ c ∈ cs, Text.isBlank c = true

/-- A line without an entry. -/
inductive Idle : List Char → Prop
  | blank {line : List Char} : Blank line → Idle line
  | comment {before rest : List Char} : Blank before → Idle (before ++ '#' :: rest)

/-- A line of two fields, the first of which says that the accounts stand below. -/
inductive Header : List Char → Prop
  | intro {first second : List Char} : ',' ∉ first → ',' ∉ second →
    isHeader (String.ofList (trimChars first)) = true → Header (first ++ ',' :: second)

/-- A line with the key and the points of a pair, and any white space around the two. -/
inductive Row (pair : String × UInt64) : List Char → Prop
  | intro {before after before' after' : List Char} : Blank before → Blank after → Blank before' → Blank after' →
    Row pair ((before ++ pair.1.toList ++ after) ++ ',' :: (before' ++ Nat.toDigits 10 pair.2.toNat ++ after'))

/-- Lines list pairs in order. -/
inductive Lists : List (String × UInt64) → List (List Char) → Prop
  | nil : Lists [] []
  | idle {pairs : List (String × UInt64)} {line : List Char} {lines : List (List Char)} : Idle line →
    Lists pairs lines → Lists pairs (line :: lines)
  | row {pair : String × UInt64} {pairs : List (String × UInt64)} {line : List Char} {lines : List (List Char)} :
    Row pair line → Lists pairs lines → Lists (pair :: pairs) (line :: lines)

/-- Lines list pairs, with a header in front or none. -/
inductive Sheet (pairs : List (String × UInt64)) : List (List Char) → Prop
  | plain {lines : List (List Char)} : Lists pairs lines → Sheet pairs lines
  | headed {line : List Char} {lines : List (List Char)} : Header line → Lists pairs lines → Sheet pairs (line :: lines)
  | idle {line : List Char} {lines : List (List Char)} : Idle line → Sheet pairs lines → Sheet pairs (line :: lines)

/-- A text lists pairs. -/
def Listing (pairs : List (String × UInt64)) (text : String) : Prop :=
  ∃ lines, Sheet pairs lines ∧ MadeOf lines text.toList

variable {name text account value : String} {pairs : List (String × UInt64)} {pair : String × UInt64}
  {chars line : List Char} {lines : List (List Char)}

/-- Pairs that can be listed are listed by some text. -/
theorem exists_listing (listable : Listable pairs) : ∃ text, Listing pairs text := by
  have written : ∃ lines cs, Lists pairs lines ∧ MadeOf lines cs := by
    have whole := listable.lineFeeds
    clear listable
    induction pairs with
    | nil => exact ⟨[], [], .nil, .nil⟩
    | cons pair pairs ih =>
      rw [List.forall_mem_cons] at whole
      obtain ⟨lines, cs, listed, made⟩ := ih whole.2
      have row : Row pair (([] ++ pair.1.toList ++ []) ++ ',' :: ([] ++ Nat.toDigits 10 pair.2.toNat ++ [])) :=
        .intro nofun nofun nofun nofun
      refine ⟨_, _, .row row listed, .cons ?_ List.mem_cons_self made⟩
      simp only [List.nil_append, List.append_nil, List.mem_append, List.mem_cons, not_or]
      refine ⟨whole.1, by decide, fun mem => ?_⟩
      have digit := Json.isDigit_of_mem_toDigits mem
      cases digit
  obtain ⟨lines, cs, listed, made⟩ := written
  exact ⟨String.ofList cs, lines, .plain listed, by rwa [String.toList_ofList]⟩

/-! ## What the lines tell -/

/-- A line of two fields keeps them when it is trimmed. -/
theorem columns_trimChars {number : Nat} (columns : Line.Columns ⟨number, line⟩ account value) :
    Line.Columns ⟨number, trimChars line⟩ account value := by
  obtain ⟨first, second, joined, whole, whole', rfl, rfl⟩ := columns
  have joined : line = first ++ ',' :: second := joined
  refine ⟨first.dropWhile Text.isBlank, Text.trimEndChars second, ?_, ?_, ?_, ?_, ?_⟩
  · rw [joined, Text.trimChars_append (by decide)]
  · exact fun mem => whole ((List.dropWhile_suffix _).subset mem)
  · exact fun mem => whole' ((Text.trimEndChars_isPrefix second).subset mem)
  · rw [Text.trimChars_dropWhile]
  · rw [Text.trimChars_trimEndChars]

/-- A line of two fields tells something unless the first of them starts a comment. -/
theorem tells_of_columns {number : Nat} (columns : Line.Columns ⟨number, line⟩ account value)
    (noComment : account.toList.head? ≠ some '#') : tells (trimChars line) = true := by
  obtain ⟨first, second, joined, -, -, rfl, -⟩ := columns
  have joined : line = first ++ ',' :: second := joined
  rw [String.toList_ofList, Text.head?_trimChars] at noComment
  rw [joined, Text.trimChars_append (by decide)]
  cases left : first.dropWhile Text.isBlank with
  | nil => simp [tells]
  | cons c rest =>
    rw [left] at noComment
    simpa [tells] using noComment

theorem not_tells_of_idle (idle : Idle line) : tells (trimChars line) = false := by
  cases idle with
  | blank blank =>
    rw [Text.trimChars_eq_nil_iff.mpr blank]
    rfl
  | @comment before rest blank =>
    rw [Text.trimChars_append (by decide), Text.dropWhile_isBlank_eq_nil_iff.mpr blank]
    rfl

/-- Trimmed characters show a pair in two fields. -/
def Shows (pair : String × UInt64) (chars : List Char) : Prop :=
  Line.Columns ⟨0, chars⟩ (Text.trim pair.1) (String.ofList (Nat.toDigits 10 pair.2.toNat))

/-- Trimmed characters show a header. -/
def Heads (chars : List Char) : Prop :=
  ∃ account value, Line.Columns ⟨0, chars⟩ account value ∧ isHeader account = true

theorem not_mem_of_blank {c : Char} (visible : Text.isBlank c = false) (blank : Blank chars) : c ∉ chars := by
  intro mem
  rw [blank c mem] at visible
  cases visible

/-- There is no white space in decimal digits. -/
theorem isBlank_of_mem_toDigits {n : Nat} {c : Char} (mem : c ∈ Nat.toDigits 10 n) : Text.isBlank c = false := by
  have digit := Json.isDigit_of_mem_toDigits mem
  rw [Char.isDigit, Bool.and_eq_true, decide_eq_true_iff, decide_eq_true_iff] at digit
  have decimal : '0' ≤ c ∧ c ≤ '9' := digit
  refine Hex.isBlank_of_isDigit ?_
  rw [Hex.isDigit, Hex.value?, if_pos decimal]
  rfl

theorem shows_of_row (whole : ',' ∉ pair.1.toList) (row : Row pair line) : Shows pair line := by
  have comma : Text.isBlank ',' = false := by decide
  obtain @⟨before, after, before', after', blankBefore, blankAfter, blankBefore', blankAfter'⟩ := row
  refine ⟨_, _, rfl, ?_, ?_, ?_, ?_⟩
  · simp only [List.mem_append, not_or]
    exact ⟨⟨not_mem_of_blank comma blankBefore, whole⟩, not_mem_of_blank comma blankAfter⟩
  · simp only [List.mem_append, not_or]
    refine ⟨⟨not_mem_of_blank comma blankBefore', fun mem => ?_⟩, not_mem_of_blank comma blankAfter'⟩
    cases Json.isDigit_of_mem_toDigits mem
  · rw [Text.trimChars_append_blank blankBefore _ blankAfter, Text.trim]
  · have visible : ∀ c ∈ Nat.toDigits 10 pair.2.toNat, Text.isBlank c = false := fun c => isBlank_of_mem_toDigits
    have trimmed : Text.Trimmed (Nat.toDigits 10 pair.2.toNat) :=
      ⟨fun c head => visible c (List.mem_of_mem_head? head), fun c last => visible c (List.mem_of_getLast? last)⟩
    rw [Text.trimChars_around blankBefore' trimmed blankAfter']

theorem heads_of_header (header : Header line) : Heads (trimChars line) ∧ tells (trimChars line) = true := by
  obtain @⟨first, second, whole, whole', heads⟩ := header
  have columns : Line.Columns ⟨0, first ++ ',' :: second⟩ (String.ofList (trimChars first))
      (String.ofList (trimChars second)) := ⟨first, second, rfl, whole, whole', rfl, rfl⟩
  refine ⟨⟨_, _, columns_trimChars columns, heads⟩, tells_of_columns columns ?_⟩
  intro comment
  rw [isHeader, beq_iff_eq] at heads
  have first := congrArg List.head? heads
  rw [List.head?_map, comment] at first
  cases first

/-- The lines that tell anything show the pairs in order. -/
theorem shows_of_lists (commas : ∀ pair ∈ pairs, ',' ∉ pair.1.toList)
    (comments : ∀ pair ∈ pairs, (Text.trim pair.1).toList.head? ≠ some '#') (listed : Lists pairs lines) :
    List.Forall₂ Shows pairs ((lines.map trimChars).filter tells) := by
  induction listed with
  | nil => exact .nil
  | @idle pairs line lines idle listed ih =>
    rw [List.map_cons, List.filter_cons_of_neg (by simp [not_tells_of_idle idle])]
    exact ih commas comments
  | @row pair pairs line lines row listed ih =>
    rw [List.forall_mem_cons] at commas comments
    have shown := shows_of_row commas.1 row
    rw [List.map_cons, List.filter_cons_of_pos (tells_of_columns shown comments.1)]
    exact .cons (columns_trimChars shown) (ih commas.2 comments.2)

/-- The lines that tell anything show the pairs in order, with a header in front or none. -/
theorem shows_of_sheet (commas : ∀ pair ∈ pairs, ',' ∉ pair.1.toList)
    (comments : ∀ pair ∈ pairs, (Text.trim pair.1).toList.head? ≠ some '#') (sheet : Sheet pairs lines) :
    ∃ heading rows, (lines.map trimChars).filter tells = heading ++ rows ∧
      (heading = [] ∨ ∃ header, heading = [header] ∧ Heads header) ∧ List.Forall₂ Shows pairs rows := by
  induction sheet with
  | plain listed => exact ⟨[], _, rfl, .inl rfl, shows_of_lists commas comments listed⟩
  | headed header listed =>
    obtain ⟨heads, told⟩ := heads_of_header header
    rw [List.map_cons, List.filter_cons_of_pos told]
    exact ⟨[_], _, rfl, .inr ⟨_, rfl, heads⟩, shows_of_lists commas comments listed⟩
  | idle idle sheet ih =>
    rw [List.map_cons, List.filter_cons_of_neg (by simp [not_tells_of_idle idle])]
    exact ih

/-! ## Reading the lines -/

/-- The entry of a pair whose key is read without the white space around it. -/
def readTrimmed (name : String) (pair : String × UInt64) : Except Error (Option Entry) :=
  readEntry name (Text.trim pair.1) pair.2

theorem readColumns_digits (account : String) (points : UInt64) :
    readColumns name (account, String.ofList (Nat.toDigits 10 points.toNat)) = readEntry name account points := by
  have digits : Text.readUInt64? (String.ofList (Nat.toDigits 10 points.toNat)) = some points := by
    rw [Text.readUInt64?_eq_some_iff, Text.readNat?_eq_some_iff, String.toList_ofList]
    refine ⟨[], _, rfl, List.mem_cons_self, ?_⟩
    rw [Text.readDigits?_eq_some_iff]
    exact ⟨Nat.toDigits_ne_nil, fun c => Json.isDigit_of_mem_toDigits, Json.digitsValue_toDigits _⟩
  rw [readColumns, digits]

/-- A line that shows a pair is read as the pair is, unless it stands where a header may and looks like one. -/
theorem readAt_of_shows {place : Nat} {line : Line} (shown : Shows pair line.chars)
    (noHeader : ¬(place = 0 ∧ isHeader (Text.trim pair.1) = true)) :
    readAt name (line, place) = readTrimmed name pair := by
  have read : columns name line = .ok _ := columns_eq_ok_iff.mpr shown
  rw [readAt_eq, read, ok_bind, if_neg noHeader, readColumns_digits, readTrimmed]

theorem readAt_of_heads {line : Line} (heads : Heads line.chars) : readAt name (line, 0) = .ok none := by
  obtain ⟨account, value, shown, header⟩ := heads
  have read : columns name line = .ok _ := columns_eq_ok_iff.mpr shown
  rw [readAt_eq, read, ok_bind, if_pos ⟨rfl, header⟩]

/-- Lines that are not the first are read as the pairs that they show. -/
theorem mapM_readLine_of_shows {others : List Line}
    (shown : List.Forall₂ (fun pair line => Shows pair line.chars) pairs others) :
    others.mapM (readLine name) = pairs.mapM (readTrimmed name) := by
  induction shown with
  | nil => rfl
  | @cons pair line pairs others first shown ih =>
    have noHeader : ¬(1 = 0 ∧ isHeader (Text.trim pair.1) = true) := by simp
    have read : readLine name line = readTrimmed name pair := readAt_of_shows first noHeader
    rw [List.mapM_cons, List.mapM_cons, read, ih]

/-- The lines that count are those that tell anything. -/
theorem map_chars_significantLines (text : String) :
    (significantLines text).map Line.chars = ((Text.lineChars text.toList).map trimChars).filter tells := by
  have chars : ((Text.lineChars text.toList).mapIdx fun index cs => (⟨index + 1, trimChars cs⟩ : Line)).map Line.chars =
      (Text.lineChars text.toList).map trimChars := by
    apply List.ext_getElem
    · simp
    · intro i _ _
      simp
  rw [significantLines, ← chars, List.filter_map]
  rfl

/-- **A text that lists pairs is read as they are**, but for white space around the keys. -/
theorem ofCsv_of_listing (listable : Listable pairs) (listing : Listing pairs text) :
    ofCsv name text = collect name (readTrimmed name) pairs := by
  obtain ⟨lines, sheet, made⟩ := listing
  obtain ⟨heading, rows, told, headed, shown⟩ := shows_of_sheet listable.commas listable.comments sheet
  rw [← Text.filter_lineChars made, ← map_chars_significantLines, List.map_eq_append_iff] at told
  obtain ⟨front, others, counted, rfl, rfl⟩ := told
  rw [List.forall₂_map_right_iff] at shown
  rcases headed with none | ⟨header, one, heads⟩
  · obtain rfl := List.map_eq_nil_iff.mp none
    rw [ofCsv, counted]
    cases shown with
    | nil => rfl
    | @cons pair line pairs others first shown =>
      have noHeader : ¬(0 = 0 ∧ isHeader (Text.trim pair.1) = true) := by simp [listable.header pair rfl]
      have read : readFirstLine name line = readTrimmed name pair := readAt_of_shows first noHeader
      simp only [List.nil_append, read, mapM_readLine_of_shows shown, collect, List.mapM_cons, bind_assoc, pure_bind]
  · obtain ⟨line, rfl, rfl⟩ := List.map_eq_singleton_iff.mp one
    have read : readFirstLine name line = .ok none := readAt_of_heads heads
    rw [ofCsv, counted]
    simp only [List.singleton_append, read, ok_bind, mapM_readLine_of_shows shown, collect]
    rfl

/-- The object with these members is read as the pairs are. -/
theorem ofJson_of_pairs (distinct : (pairs.map Prod.fst).Nodup) :
    ofJson name (Json.collected .ofUInt64 pairs) = ofPairs name pairs := by
  have read (pair : String × UInt64) : readMember name (pair.1, .ofUInt64 pair.2) = readEntry name pair.1 pair.2 := by
    have taken : (Json.ofUInt64 pair.2).toUInt64? = some pair.2 := Json.toUInt64?_natural pair.2
    rw [readMember, taken]
  rw [ofJson, ofPairs, Json.collected_of_nodup distinct, collect, collect, List.mapM_map]
  simp only [Function.comp_def, read]

/-! ## White space around a key -/

/-- White space around a key makes no difference to what it gives. -/
theorem readTrimmed_gives_iff {row : Option Entry} :
    readTrimmed name pair = .ok row ↔ readEntry name pair.1 pair.2 = .ok row := by
  simp only [readTrimmed, readEntry_gives_iff, Text.isBlankText_trim, Address.parse_trim]

/-- A bad key is handed back without the white space around it. -/
theorem readTrimmed_fails_iff {e : Error} :
    readTrimmed name pair = .error e ↔
      Text.isBlankText pair.1 = false ∧ (∀ a, Address.parse pair.1 ≠ .ok a) ∧
        e = .invalidAccount name (Text.trim pair.1) := by
  simp only [readTrimmed, readEntry_fails_iff, Text.isBlankText_trim, ne_eq, Address.parse_trim]

/-! ## One table -/

/-- **Pairs, the object with these members and a text that lists them give one table**, with an entry for each key that
is not blank, **or fail at the same key**, the first one that is neither blank nor an account; a text hands it back
without the white space around it. -/
theorem ofPairs_ofJson_ofCsv (name : String) {pairs : List (String × UInt64)} (listable : Listable pairs) :
    (∃ text, Listing pairs text) ∧
    ∀ text, Listing pairs text →
      (∃ table, ofPairs name pairs = .ok table ∧ ofJson name (Json.collected .ofUInt64 pairs) = .ok table ∧
        ofCsv name text = .ok table ∧ table.name = name ∧
        List.Forall₂ (fun pair entry => Address.parse pair.1 = .ok entry.account ∧ pair.2 = entry.points)
          (pairs.filter fun pair => !Text.isBlankText pair.1) table.entries) ∨
      ∃ earlier key points later, pairs = earlier ++ (key, points) :: later ∧
        (∀ pair ∈ earlier, Text.isBlankText pair.1 = true ∨ ∃ a, Address.parse pair.1 = .ok a) ∧
        Text.isBlankText key = false ∧ (∀ a, Address.parse key ≠ .ok a) ∧
        ofPairs name pairs = .error (.invalidAccount name key) ∧
        ofJson name (Json.collected .ofUInt64 pairs) = .error (.invalidAccount name key) ∧
        ofCsv name text = .error (.invalidAccount name (Text.trim key)) := by
  refine ⟨exists_listing listable, fun text listing => ?_⟩
  rw [ofJson_of_pairs listable.distinct, ofCsv_of_listing listable listing]
  cases made : ofPairs name pairs with
  | ok table =>
    left
    obtain ⟨rows, all, same⟩ := collect_eq_ok_iff.mp made
    have csv : collect name (readTrimmed name) pairs = .ok table :=
      collect_eq_ok_iff.mpr ⟨rows, all.imp fun pair row => readTrimmed_gives_iff.mpr, same⟩
    exact ⟨table, rfl, rfl, csv, entries_of_collect Prod.fst (fun pair points => pair.2 = points)
      (fun pair row given => ⟨pair.2, rfl, given⟩) made⟩
  | error e =>
    right
    obtain ⟨earlier, ⟨key, points⟩, later, whole, passed, failed⟩ := collect_eq_error_iff.mp made
    obtain ⟨visible, other, rfl⟩ := readEntry_fails_iff.mp failed
    have csv : collect name (readTrimmed name) pairs = .error (.invalidAccount name (Text.trim key)) :=
      collect_eq_error_iff.mpr ⟨earlier, (key, points), later, whole,
        fun pair mem => (passed pair mem).imp fun row => readTrimmed_gives_iff.mpr,
        readTrimmed_fails_iff.mpr ⟨visible, other, rfl⟩⟩
    exact ⟨earlier, key, points, later, whole, fun pair mem => exists_readEntry_iff.mp (passed pair mem), visible, other,
      rfl, rfl, csv⟩

/-- Points for an account and for a blank key, below a comment and a header, with both kinds of line ends. -/
def sheet : String :=
  "# points\r\n Address ,Points\n\n\t0x00000000000000000000000000000000000000ab , 7\r\n ,5"

theorem ofPairs_ofJson_ofCsv_sheet :
    let pairs : List (String × UInt64) := [("0x00000000000000000000000000000000000000ab", 7), (" ", 5)]
    Listable pairs ∧ Listing pairs sheet ∧
      ∃ table, ofPairs "dev" pairs = .ok table ∧ ofJson "dev" (Json.collected .ofUInt64 pairs) = .ok table ∧
        ofCsv "dev" sheet = .ok table ∧ table.entries = [⟨⟨(Vector.replicate 19 0).push 0xab⟩, 7⟩] := by
  intro pairs
  have listable : Listable pairs := {
    distinct := by decide
    commas := by decide
    lineFeeds := by decide
    comments := by decide
    header := by decide }
  have listing : Listing pairs sheet := by
    have comment : Idle ([] ++ '#' :: " points".toList) := .comment nofun
    have header : Header (" Address ".toList ++ ',' :: "Points".toList) := .intro (by decide) (by decide) (by decide)
    have gap : Idle [] := .blank nofun
    have first : Row ("0x00000000000000000000000000000000000000ab", 7)
        ((['\t'] ++ "0x00000000000000000000000000000000000000ab".toList ++ [' ']) ++
          ',' :: ([' '] ++ Nat.toDigits 10 (7 : UInt64).toNat ++ [])) :=
      .intro (List.forall_mem_singleton.mpr (by decide)) (List.forall_mem_singleton.mpr (by decide))
        (List.forall_mem_singleton.mpr (by decide)) nofun
    have second : Row (" ", 5) (([] ++ " ".toList ++ []) ++ ',' :: ([] ++ Nat.toDigits 10 (5 : UInt64).toNat ++ [])) :=
      .intro nofun nofun nofun nofun
    refine ⟨_, .idle comment (.headed header (.idle gap (.row first (.row second .nil)))), ?_⟩
    have crlf : ['\r', '\n'] ∈ [['\n'], ['\r', '\n']] := by decide
    refine Eq.mp (congrArg (MadeOf _) ?_) (.cons (by decide) crlf (.cons (by decide) List.mem_cons_self
      (.cons (by decide) List.mem_cons_self (.cons (by decide) crlf (.last (by decide))))))
    decide +kernel
  have made : ofPairs "dev" pairs = .ok ⟨"dev", [⟨⟨(Vector.replicate 19 0).push 0xab⟩, 7⟩]⟩ := by decide +kernel
  refine ⟨listable, listing, ?_⟩
  rcases (ofPairs_ofJson_ofCsv "dev" listable).2 sheet listing with ⟨table, given, object, lines, -⟩ | failed
  · rw [made] at given
    obtain rfl := Except.ok.inj given
    exact ⟨_, made, object, lines, rfl⟩
  · obtain ⟨earlier, key, points, later, -, -, -, -, failed, -⟩ := failed
    rw [made] at failed
    cases failed

end Allotment.Points.Table
