import Allotment.Bytes.Hex
import Allotment.Text.Blank

/-!
# Hexadecimal digits

- reading looks at the values of digits and not at their case (`Hex.decode?_congr`), and gives a byte for every two
  digits (`Hex.digits_of_decode?`, `Hex.exists_decode?`);
- what was read is written with the same digits, but for capitals (`Hex.map_toLower_of_decode?`);
- digits are spelled in a text with a mark in front and white space around (`Hex.SpelledIn`), which is what dropping
  the mark and trimming take away (`Hex.spelledIn_iff_dropMark`);
- byte strings are ordered as their digits are (`Hex.compare_encode`).
-/

namespace Allotment.Hex

/-! ## Characters that are digits -/

theorem range_of_isDigit {c : Char} (digit : isDigit c = true) :
    ('0' ≤ c ∧ c ≤ '9') ∨ ('a' ≤ c ∧ c ≤ 'f') ∨ ('A' ≤ c ∧ c ≤ 'F') := by
  unfold isDigit value? at digit
  split at digit
  case isTrue decimal => exact .inl decimal
  case isFalse =>
    split at digit
    case isTrue lower => exact .inr (.inl lower)
    case isFalse =>
      split at digit
      case isTrue upper => exact .inr (.inr upper)
      case isFalse => cases digit

theorem isBlank_of_isDigit {c : Char} (digit : isDigit c = true) : Text.isBlank c = false := by
  have printable : 0x30 ≤ c.toNat ∧ c.toNat ≤ 0x66 := by
    rcases range_of_isDigit digit with ⟨low, high⟩ | ⟨low, high⟩ | ⟨low, high⟩ <;>
      exact ⟨Nat.le_trans (by decide) (show _ ≤ c.toNat from low),
        Nat.le_trans (show c.toNat ≤ _ from high) (by decide)⟩
  simp only [Text.isBlank, Text.within, Text.blankRanges, List.any_cons, List.any_nil, Bool.or_false,
    Bool.or_eq_false_iff, Bool.and_eq_false_iff, decide_eq_false_iff_not]
  omega

/-- The characters that are digits. -/
def alphabet : List Char := "0123456789abcdefABCDEF".toList

theorem lt_of_isDigit {c : Char} (digit : isDigit c = true) : c.toNat < 128 := by
  rcases range_of_isDigit digit with ⟨-, high⟩ | ⟨-, high⟩ | ⟨-, high⟩ <;>
    exact Nat.lt_of_le_of_lt (show c.toNat ≤ _ from high) (by decide)

theorem isDigit_iff_mem {c : Char} : isDigit c = true ↔ c ∈ alphabet := by
  have all : ∀ n < 128, isDigit (Char.ofNat n) = true → Char.ofNat n ∈ alphabet := by decide
  constructor
  · intro digit
    have found := all c.toNat (lt_of_isDigit digit)
    rw [Char.ofNat_toNat] at found
    exact found digit
  · intro mem
    have all : alphabet.all isDigit = true := by decide
    exact List.all_eq_true.mp all c mem

/-- With capitals made small, a digit is the one that its value is written with. -/
theorem toLower_of_value? {c : Char} {n : Nat} (value : value? c = some n) :
    n < 16 ∧ c.toLower = Nat.digitChar n := by
  have all : (alphabet.all fun c => (value? c).any fun n => n < 16 ∧ c.toLower = Nat.digitChar n) = true := by decide
  have digit : isDigit c = true := by rw [isDigit, value, Option.isSome_some]
  have found := List.all_eq_true.mp all c (isDigit_iff_mem.mp digit)
  rw [value, Option.any_some] at found
  exact of_decide_eq_true found

/-- Digits that differ in their case only have the same values. -/
theorem map_value?_of_map_toLower {cs ds : List Char} (digits : ∀ c ∈ cs, c ∈ alphabet)
    (same : cs.map Char.toLower = ds) : cs.map value? = ds.map value? := by
  have all : (alphabet.all fun c => value? c = value? c.toLower) = true := by decide
  subst same
  rw [List.map_map]
  exact List.map_congr_left fun c mem => of_decide_eq_true (List.all_eq_true.mp all c (digits c mem))

/-! ## Reading and writing -/

theorem mem_encode {bytes : Bytes} {c : Char} (mem : c ∈ encode bytes) : ∃ n < 16, c = Nat.digitChar n := by
  obtain ⟨byte, -, mem⟩ := List.mem_flatMap.mp mem
  have small := byte.toNat_lt
  rw [byteChars, List.mem_cons, List.mem_singleton] at mem
  rcases mem with rfl | rfl
  · exact ⟨byte.toNat / 16, by omega, rfl⟩
  · exact ⟨byte.toNat % 16, by omega, rfl⟩

@[simp] theorem length_encode (bytes : Bytes) : (encode bytes).length = 2 * bytes.length := by
  induction bytes with
  | nil => rfl
  | cons byte bytes ih =>
    rw [encode_cons, List.length_append, ih, List.length_cons]
    show 2 + 2 * bytes.length = 2 * (bytes.length + 1)
    omega

/-- Reading does not look at the case of digits, only at their values. -/
theorem decode?_congr {cs ds : List Char} (same : cs.map value? = ds.map value?) : decode? cs = decode? ds := by
  fun_induction decode? cs generalizing ds with
  | case1 =>
    obtain rfl := List.map_eq_nil_iff.mp same.symm
    rfl
  | case2 a b rest ih =>
    obtain ⟨a', ds, rfl, first, same⟩ := List.map_eq_cons_iff.mp same.symm
    obtain ⟨b', ds, rfl, second, same⟩ := List.map_eq_cons_iff.mp same
    rw [decode?, first, second, ih same.symm]
  | case3 =>
    obtain ⟨a', ds, rfl, -, same⟩ := List.map_eq_cons_iff.mp same.symm
    obtain rfl := List.map_eq_nil_iff.mp same
    rfl

/-- Whatever can be read is digits, two for each byte. -/
theorem digits_of_decode? {cs : List Char} {bytes : Bytes} (decoded : decode? cs = some bytes) :
    cs.length = 2 * bytes.length ∧ ∀ c ∈ cs, isDigit c = true := by
  fun_induction decode? cs generalizing bytes with
  | case1 =>
    cases decoded
    simp
  | case2 a b rest ih =>
    simp only [Option.bind_eq_bind, Option.bind_eq_some_iff] at decoded
    obtain ⟨high, first, low, second, others, decoded, ⟨⟩⟩ := decoded
    obtain ⟨length, digits⟩ := ih decoded
    constructor
    · simp only [List.length_cons, length]
      omega
    · simpa [isDigit, first, second] using digits
  | case3 => cases decoded

/-- Digits that were read are those that are written, but for capitals. -/
theorem map_toLower_of_decode? {cs : List Char} {bytes : Bytes} (decoded : decode? cs = some bytes) :
    cs.map Char.toLower = encode bytes := by
  fun_induction decode? cs generalizing bytes with
  | case1 =>
    cases decoded
    rfl
  | case2 a b rest ih =>
    simp only [Option.bind_eq_bind, Option.bind_eq_some_iff] at decoded
    obtain ⟨high, first, low, second, others, decoded, ⟨⟩⟩ := decoded
    obtain ⟨highSmall, highLower⟩ := toLower_of_value? first
    obtain ⟨lowSmall, lowLower⟩ := toLower_of_value? second
    have whole : (UInt8.ofNat (16 * high + low)).toNat = 16 * high + low :=
      UInt8.toNat_ofNat_of_lt' (show 16 * high + low < 256 by omega)
    have upper : (16 * high + low) / 16 = high := by omega
    have lower : (16 * high + low) % 16 = low := by omega
    rw [encode_cons, byteChars, whole, upper, lower, List.map_cons, List.map_cons, highLower, lowLower, ih decoded]
    rfl
  | case3 => cases decoded

/-- Digits can be read, two for each byte. -/
theorem exists_decode? (count : Nat) {cs : List Char} (length : cs.length = 2 * count)
    (digits : ∀ c ∈ cs, isDigit c = true) : ∃ bytes, decode? cs = some bytes ∧ bytes.length = count := by
  induction count generalizing cs with
  | zero =>
    obtain rfl := List.length_eq_zero_iff.mp length
    exact ⟨[], rfl, rfl⟩
  | succ count ih =>
    obtain ⟨a, b, rest, rfl⟩ : ∃ a b rest, cs = a :: b :: rest := by
      match cs, length with
      | a :: b :: rest, _ => exact ⟨a, b, rest, rfl⟩
    simp only [List.forall_mem_cons] at digits
    obtain ⟨high, first⟩ := Option.isSome_iff_exists.mp digits.1
    obtain ⟨low, second⟩ := Option.isSome_iff_exists.mp digits.2.1
    obtain ⟨bytes, decoded, rfl⟩ := ih (by simp only [List.length_cons] at length; omega) digits.2.2
    exact ⟨UInt8.ofNat (16 * high + low) :: bytes, by simp [decode?, first, second, decoded], rfl⟩

/-- Digits are all zero just if the bytes are that they stand for. -/
theorem forall_eq_zero_iff {cs : List Char} {bytes : Bytes} (digits : ∀ c ∈ cs, c ∈ alphabet)
    (same : cs.map Char.toLower = encode bytes) : (∀ c ∈ cs, c = '0') ↔ ∀ byte ∈ bytes, byte = 0 := by
  have lower : ∀ c ∈ alphabet, c.toLower = '0' ↔ c = '0' := by
    intro c mem
    have all : (alphabet.all fun c => c.toLower = '0' ↔ c = '0') = true := by decide
    simpa using List.all_eq_true.mp all c mem
  have zeroDigit : ∀ n < 16, Nat.digitChar n = '0' ↔ n = 0 := by decide
  have written (byte : UInt8) : (∀ c ∈ byteChars byte, c = '0') ↔ byte = 0 := by
    have small := byte.toNat_lt
    rw [byteChars, ← UInt8.toNat_inj]
    simp only [List.forall_mem_cons, List.not_mem_nil, false_implies, implies_true, and_true]
    rw [zeroDigit _ (by omega), zeroDigit _ (by omega), UInt8.toNat_zero]
    omega
  have small : (∀ c ∈ cs, c = '0') ↔ ∀ c ∈ cs.map Char.toLower, c = '0' := by
    rw [List.forall_mem_map]
    exact forall₂_congr fun c mem => (lower c (digits c mem)).symm
  rw [small, same, encode]
  constructor
  · intro zero byte mem
    exact (written byte).mp fun c char => zero c (List.mem_flatMap.mpr ⟨byte, mem, char⟩)
  · intro zero c mem
    obtain ⟨byte, inside, char⟩ := List.mem_flatMap.mp mem
    exact (written byte).mpr (zero byte inside) c char

/-! ## Marks -/

/-- A text has one of the marks, which is dropped, or it has none. -/
theorem dropMark_cases (cs : List Char) :
    cs = '0' :: 'x' :: dropMark cs ∨ cs = '0' :: 'X' :: dropMark cs ∨
      dropMark cs = cs ∧ ∀ rest, cs ≠ '0' :: 'x' :: rest ∧ cs ≠ '0' :: 'X' :: rest := by
  unfold dropMark
  split
  case h_1 => exact .inl rfl
  case h_2 => exact .inr (.inl rfl)
  case h_3 noLower noUpper => exact .inr (.inr ⟨rfl, fun rest => ⟨noLower rest, noUpper rest⟩⟩)

theorem length_dropMark_le (cs : List Char) : (dropMark cs).length ≤ cs.length := by
  have shorter (a b : Char) (rest : List Char) : rest.length ≤ (a :: b :: rest).length := by
    simp only [List.length_cons]
    omega
  unfold dropMark
  split
  case h_1 => exact shorter _ _ _
  case h_2 => exact shorter _ _ _
  case h_3 => exact Nat.le_refl _

/-- There is no white space around a mark and digits. -/
theorem trimmed_of_digits {mark digits : List Char} (marked : mark ∈ [[], ['0', 'x'], ['0', 'X']])
    (all : ∀ c ∈ digits, isDigit c = true) : Text.Trimmed (mark ++ digits) := by
  have visible : ∀ c ∈ mark ++ digits, Text.isBlank c = false := by
    have inMark : ∀ mark ∈ [[], ['0', 'x'], ['0', 'X']], ∀ c ∈ mark, Text.isBlank c = false := by
      simp only [List.forall_mem_cons, List.not_mem_nil, false_implies, implies_true, and_true, true_and]
      decide
    intro c mem
    rcases List.mem_append.mp mem with mem | mem
    · exact inMark mark marked c mem
    · exact isBlank_of_isDigit (all c mem)
  exact ⟨fun c head => visible c (List.mem_of_mem_head? head), fun c last => visible c (List.mem_of_getLast? last)⟩

/-- No digits look like a mark. -/
theorem ne_mark_of_digits {digits : List Char} (all : ∀ c ∈ digits, isDigit c = true) (rest : List Char) :
    digits ≠ '0' :: 'x' :: rest ∧ digits ≠ '0' :: 'X' :: rest := by
  have noDigit : isDigit 'x' = false ∧ isDigit 'X' = false := by decide
  constructor
  · rintro rfl
    have digit := all 'x' (List.mem_cons_of_mem _ List.mem_cons_self)
    simp [noDigit.1] at digit
  · rintro rfl
    have digit := all 'X' (List.mem_cons_of_mem _ List.mem_cons_self)
    simp [noDigit.2] at digit

/-- A mark in front of digits is dropped. -/
theorem dropMark_of_digits {mark digits : List Char} (marked : mark ∈ [[], ['0', 'x'], ['0', 'X']])
    (all : ∀ c ∈ digits, isDigit c = true) : dropMark (mark ++ digits) = digits := by
  simp only [List.mem_cons, List.not_mem_nil, or_false] at marked
  rcases marked with rfl | rfl | rfl
  · rw [List.nil_append]
    rcases dropMark_cases digits with lower | upper | ⟨same, -⟩
    · exact absurd lower (ne_mark_of_digits all _).1
    · exact absurd upper (ne_mark_of_digits all _).2
    · exact same
  · rfl
  · rfl

/-! ## Digits in a text -/

/-- Digits of either case are spelled in a text: one of the marks is in front of them, and nothing but white space is
around. -/
structure SpelledIn (marks : List (List Char)) (text : String) (digits : List Char) : Prop where
  around : ∃ before mark after, text.toList = before ++ (mark ++ digits) ++ after ∧
    (∀ c ∈ before, Text.isBlank c = true) ∧ mark ∈ marks ∧ ∀ c ∈ after, Text.isBlank c = true
  digits : ∀ c ∈ digits, c ∈ alphabet

section Spelled

variable {marks : List (List Char)} {text : String} {digits : List Char}

theorem SpelledIn.isDigit (spelled : SpelledIn marks text digits) : ∀ c ∈ digits, isDigit c = true :=
  fun c mem => isDigit_iff_mem.mpr (spelled.digits c mem)

theorem SpelledIn.mono (spelled : SpelledIn marks text digits) {more : List (List Char)} (subset : marks ⊆ more) :
    SpelledIn more text digits := by
  obtain ⟨before, mark, after, whole, blankBefore, marked, blankAfter⟩ := spelled.around
  exact ⟨⟨before, mark, after, whole, blankBefore, subset marked, blankAfter⟩, spelled.digits⟩

/-- **Trimming leaves the mark and the digits of a spelling**, and what it leaves like this is a spelling. -/
theorem spelledIn_iff (known : marks ⊆ [[], ['0', 'x'], ['0', 'X']]) :
    SpelledIn marks text digits ↔
      (∃ mark ∈ marks, Text.trimChars text.toList = mark ++ digits) ∧ ∀ c ∈ digits, Hex.isDigit c = true := by
  constructor
  · intro spelled
    obtain ⟨before, mark, after, whole, blankBefore, marked, blankAfter⟩ := spelled.around
    refine ⟨⟨mark, marked, ?_⟩, spelled.isDigit⟩
    rw [whole, Text.trimChars_around blankBefore (trimmed_of_digits (known marked) spelled.isDigit) blankAfter]
  · rintro ⟨⟨mark, marked, left⟩, all⟩
    obtain ⟨before, after, whole, blankBefore, blankAfter⟩ := Text.exists_around_trimChars text.toList
    rw [left] at whole
    exact ⟨⟨before, mark, after, whole, blankBefore, marked, blankAfter⟩, fun c mem => isDigit_iff_mem.mp (all c mem)⟩

/-- What is left of a spelling when white space and mark are taken away. -/
theorem spelledIn_iff_dropMark :
    SpelledIn [[], ['0', 'x'], ['0', 'X']] text digits ↔
      dropMark (Text.trimChars text.toList) = digits ∧ ∀ c ∈ digits, Hex.isDigit c = true := by
  rw [spelledIn_iff (List.Subset.refl _)]
  refine and_congr_left fun all => ?_
  constructor
  · rintro ⟨mark, marked, left⟩
    rw [left, dropMark_of_digits marked all]
  · intro left
    rcases dropMark_cases (Text.trimChars text.toList) with lower | upper | ⟨none, -⟩
    · exact ⟨['0', 'x'], by decide, by rw [lower, left]; rfl⟩
    · exact ⟨['0', 'X'], by decide, by rw [upper, left]; rfl⟩
    · exact ⟨[], by decide, by rw [← none, left]; rfl⟩

end Spelled

/-! ## The order of digits -/

theorem compare_digitChar : ∀ m < 16, ∀ n < 16, compare (Nat.digitChar m) (Nat.digitChar n) = compare m n := by decide

theorem compare_toNat (a b : UInt8) : compare a b = compare a.toNat b.toNat := by
  rcases Nat.lt_trichotomy a.toNat b.toNat with less | same | greater
  · rw [Nat.compare_eq_lt.mpr less, Std.compare_eq_lt.mpr (UInt8.lt_iff_toNat_lt.mpr less)]
  · obtain rfl := UInt8.toNat_inj.mp same
    rw [Nat.compare_eq_eq.mpr rfl, Std.compare_self]
  · rw [Nat.compare_eq_gt.mpr greater, Std.compare_eq_gt.mpr (UInt8.lt_iff_toNat_lt.mpr greater)]

/-- Numbers are compared by their quotients, and where these are the same by their remainders. -/
theorem compare_div_mod (base m n : Nat) :
    compare m n = (compare (m / base) (n / base)).then (compare (m % base) (n % base)) := by
  have parts (k : Nat) := Nat.div_add_mod k base
  rcases Nat.lt_trichotomy (m / base) (n / base) with less | same | greater
  · rw [Nat.compare_eq_lt.mpr less, Nat.compare_eq_lt.mpr (Nat.lt_of_div_lt_div less)]
    rfl
  · rw [Nat.compare_eq_eq.mpr same, Ordering.eq_then]
    have wholeM := parts m
    have wholeN := parts n
    rw [same] at wholeM
    rcases Nat.lt_trichotomy (m % base) (n % base) with less | same' | greater
    · rw [Nat.compare_eq_lt.mpr less, Nat.compare_eq_lt.mpr (by omega)]
    · rw [Nat.compare_eq_eq.mpr same', Nat.compare_eq_eq.mpr (by omega)]
    · rw [Nat.compare_eq_gt.mpr greater, Nat.compare_eq_gt.mpr (by omega)]
  · rw [Nat.compare_eq_gt.mpr greater, Nat.compare_eq_gt.mpr (Nat.lt_of_div_lt_div greater)]
    rfl

/-- The first half of a byte counts before the second. -/
theorem compare_byteChars (a b : UInt8) (cs ds : List Char) :
    compare (byteChars a ++ cs) (byteChars b ++ ds) = (compare a b).then (compare cs ds) := by
  have small (byte : UInt8) : byte.toNat / 16 < 16 ∧ byte.toNat % 16 < 16 := by
    have := byte.toNat_lt
    omega
  have first := compare_digitChar _ (small a).1 _ (small b).1
  have second := compare_digitChar _ (small a).2 _ (small b).2
  show List.compareLex compare _ _ = (compare a b).then (List.compareLex compare cs ds)
  rw [byteChars, byteChars, List.cons_append, List.cons_append, List.cons_append, List.cons_append,
    List.compareLex_cons_cons, List.compareLex_cons_cons, first, second, compare_toNat,
    compare_div_mod 16 a.toNat b.toNat, Ordering.then_assoc]
  rfl

/-- **Byte strings are ordered as their digits are.** -/
theorem compare_encode (xs ys : Bytes) : compare (encode xs) (encode ys) = compare xs ys := by
  induction xs generalizing ys with
  | nil =>
    cases ys with
    | nil => rfl
    | cons y ys => rfl
  | cons x xs ih =>
    cases ys with
    | nil => rfl
    | cons y ys =>
      rw [encode_cons, encode_cons, compare_byteChars, ih]
      exact List.compareLex_cons_cons.symm

end Allotment.Hex
