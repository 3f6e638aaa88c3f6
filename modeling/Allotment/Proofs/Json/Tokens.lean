import Allotment.Json.Token

/-!
# The tokens of a text, one after the other

What is left of a text after a token is shorter than the text (`length_readToken?`), so that the fuel of `tokensUpTo`
lasts to the end and the tokens of a text obey equations without fuel: white space is passed over (`tokens_spaces`),
and a token stands in front of those of the text after it (`tokens_of_readToken?`). The text of an integer is one
token (`tokens_integer`), and so is that of a string (`tokens_string`), whose pieces denote the characters it was
written for (`joinPieces?_pieceOf`).
-/

namespace Allotment.Json

/-! ## Reading shortens the text -/

namespace Numeral

theorem length_of_digits {cs ds rest : List Char} (spelled : digits cs = (ds, rest)) :
    ds.length + rest.length = cs.length := by
  obtain ⟨rfl, rfl⟩ := Prod.mk.inj spelled
  rw [← List.length_append, List.takeWhile_append_dropWhile]

theorem length_readWhole? {cs rest : List Char} {whole : Nat} (read : readWhole? cs = some (whole, rest)) :
    rest.length < cs.length := by
  unfold readWhole? at read
  split at read
  case h_1 => cases read
  case h_2 => cases read
  case h_3 ds left nonempty _ spelled =>
    obtain ⟨-, rfl⟩ := Prod.mk.inj (Option.some.inj read)
    have parts := length_of_digits spelled
    have : 0 < ds.length := List.length_pos_iff.mpr nonempty
    omega

theorem length_readFraction? {cs rest fraction : List Char} (read : readFraction? cs = some (fraction, rest)) :
    rest.length ≤ cs.length := by
  unfold readFraction? at read
  split at read
  case h_1 cs =>
    split at read
    case h_1 => cases read
    case h_2 spelled =>
      obtain ⟨-, rfl⟩ := Prod.mk.inj (Option.some.inj read)
      have parts := length_of_digits spelled
      rw [List.length_cons]
      omega
  case h_2 =>
    obtain ⟨-, rfl⟩ := Prod.mk.inj (Option.some.inj read)
    exact Nat.le_refl _

theorem length_readPower? {negative : Bool} {cs rest : List Char} {exponent : Option Int}
    (read : readPower? negative cs = some (exponent, rest)) : rest.length ≤ cs.length := by
  unfold readPower? at read
  split at read
  case h_1 => cases read
  case h_2 spelled =>
    obtain ⟨-, rfl⟩ := Prod.mk.inj (Option.some.inj read)
    have parts := length_of_digits spelled
    omega

theorem length_readExponent? {cs rest : List Char} {exponent : Option Int}
    (read : readExponent? cs = some (exponent, rest)) : rest.length ≤ cs.length := by
  unfold readExponent? at read
  split at read
  case h_1 c cs =>
    rw [List.length_cons]
    split at read
    case isTrue =>
      split at read
      case h_1 | h_2 =>
        have := length_readPower? read
        rw [List.length_cons]
        omega
      case h_3 =>
        have := length_readPower? read
        omega
    case isFalse =>
      obtain ⟨-, rfl⟩ := Prod.mk.inj (Option.some.inj read)
      exact Nat.le_refl _
  case h_2 =>
    obtain ⟨-, rfl⟩ := Prod.mk.inj (Option.some.inj read)
    exact Nat.le_refl _

theorem length_read? {cs rest : List Char} {numeral : Numeral} (read : read? cs = some (numeral, rest)) :
    rest.length < cs.length := by
  simp only [read?, Option.bind_eq_bind, Option.bind_eq_some_iff, Prod.exists] at read
  obtain ⟨whole, afterWhole, wholeRead, fraction, afterFraction, fractionRead, exponent, afterExponent, exponentRead,
    made⟩ := read
  obtain ⟨-, rfl⟩ := Prod.mk.inj (Option.some.inj made)
  have first := length_readWhole? wholeRead
  have second := length_readFraction? fractionRead
  have third := length_readExponent? exponentRead
  split at first
  case h_1 =>
    rw [List.length_cons]
    dsimp only at first
    omega
  case h_2 => exact Nat.lt_of_le_of_lt third (Nat.lt_of_le_of_lt second first)

end Numeral

theorem length_readPieces? {cs rest : List Char} {pieces : List Piece} (read : readPieces? cs = some (pieces, rest)) :
    rest.length < cs.length := by
  fun_induction readPieces? cs generalizing pieces rest with
  | case1 => cases read
  | case2 =>
    obtain ⟨-, rfl⟩ := Prod.mk.inj (Option.some.inj read)
    exact Nat.lt_succ_self _
  | case3 a b c d left ih =>
    simp only [Option.bind_eq_bind, Option.bind_eq_some_iff, Prod.exists] at read
    obtain ⟨code, -, others, left', readOthers, made⟩ := read
    obtain ⟨-, rfl⟩ := Prod.mk.inj (Option.some.inj made)
    have := ih readOthers
    simp only [List.length_cons]
    omega
  | case4 e left _ ih =>
    simp only [Option.bind_eq_bind, Option.bind_eq_some_iff, Prod.exists] at read
    obtain ⟨c, -, others, left', readOthers, made⟩ := read
    obtain ⟨-, rfl⟩ := Prod.mk.inj (Option.some.inj made)
    have := ih readOthers
    simp only [List.length_cons]
    omega
  | case5 => cases read
  | case6 => cases read
  | case7 c left _ _ _ _ _ ih =>
    simp only [Option.bind_eq_bind, Option.bind_eq_some_iff, Prod.exists] at read
    obtain ⟨others, left', readOthers, made⟩ := read
    obtain ⟨-, rfl⟩ := Prod.mk.inj (Option.some.inj made)
    have := ih readOthers
    simp only [List.length_cons]
    omega

theorem length_readToken? {cs rest : List Char} {token : Token} (read : readToken? cs = some (token, rest)) :
    rest.length < cs.length := by
  unfold readToken? at read
  split at read
  case h_10 text =>
    obtain ⟨⟨pieces, left⟩, piecesRead, made⟩ := Option.map_eq_some_iff.mp read
    obtain ⟨-, rfl⟩ := Prod.mk.inj made
    have := length_readPieces? piecesRead
    rw [List.length_cons]
    omega
  case h_11 =>
    obtain ⟨⟨numeral, left⟩, numeralRead, made⟩ := Option.map_eq_some_iff.mp read
    obtain ⟨-, rfl⟩ := Prod.mk.inj made
    exact Numeral.length_read? numeralRead
  all_goals
    obtain ⟨-, rfl⟩ := Prod.mk.inj (Option.some.inj read)
    simp only [List.length_cons]
    omega

/-! ## Tokens without fuel -/

theorem tokensUpTo_nil (fuel : Nat) : tokensUpTo fuel [] = [] := by
  cases fuel with
  | zero => rfl
  | succ fuel => rfl

/-- As much fuel as there are characters is enough. -/
theorem tokensUpTo_eq {fuel fuel' : Nat} {cs : List Char} (enough : cs.length ≤ fuel) (enough' : cs.length ≤ fuel') :
    tokensUpTo fuel cs = tokensUpTo fuel' cs := by
  induction fuel generalizing fuel' cs with
  | zero =>
    obtain rfl := List.length_eq_zero_iff.mp (Nat.le_zero.mp enough)
    rw [tokensUpTo_nil, tokensUpTo_nil]
  | succ fuel ih =>
    cases fuel' with
    | zero =>
      obtain rfl := List.length_eq_zero_iff.mp (Nat.le_zero.mp enough')
      rw [tokensUpTo_nil, tokensUpTo_nil]
    | succ fuel' =>
      have dropped : (cs.dropWhile isSpace).length ≤ cs.length := (List.dropWhile_suffix isSpace).length_le
      rw [tokensUpTo, tokensUpTo]
      cases front : cs.dropWhile isSpace with
      | nil => rfl
      | cons c left =>
        dsimp only
        cases read : readToken? (c :: left) with
        | none => rfl
        | some found =>
          obtain ⟨token, rest⟩ := found
          have := length_readToken? read
          rw [front] at dropped
          have shorter : rest.length ≤ fuel ∧ rest.length ≤ fuel' := by omega
          dsimp only
          rw [ih shorter.1 shorter.2]

theorem tokens_eq (cs : List Char) :
    tokens cs =
      match cs.dropWhile isSpace with
      | [] => []
      | cs =>
        match readToken? cs with
        | some (token, rest) => token :: tokens rest
        | none => [.fault] := by
  have dropped : (cs.dropWhile isSpace).length ≤ cs.length := (List.dropWhile_suffix isSpace).length_le
  rw [tokens, tokensUpTo_eq (Nat.le_refl _) (Nat.le_succ _), tokensUpTo]
  cases front : cs.dropWhile isSpace with
  | nil => rfl
  | cons c left =>
    dsimp only
    cases read : readToken? (c :: left) with
    | none => rfl
    | some found =>
      obtain ⟨token, rest⟩ := found
      have := length_readToken? read
      rw [front] at dropped
      dsimp only
      rw [tokens, tokensUpTo_eq (by omega) (Nat.le_refl _)]

@[simp] theorem tokens_nil : tokens [] = [] := rfl

theorem isSpace_cases {c : Char} (space : isSpace c = true) : c = ' ' ∨ c = '\n' ∨ c = '\t' ∨ c = '\r' := by
  simpa [isSpace, or_assoc] using space

/-- White space is passed over. -/
theorem tokens_spaces {blank : List Char} (spaces : ∀ c ∈ blank, isSpace c = true) (cs : List Char) :
    tokens (blank ++ cs) = tokens cs := by
  rw [tokens_eq (blank ++ cs), tokens_eq cs, List.dropWhile_append_of_pos spaces]

/-- A token stands in front of those of the text after it. -/
theorem tokens_of_readToken? {c : Char} {cs rest : List Char} {token : Token} (visible : isSpace c = false)
    (read : readToken? (c :: cs) = some (token, rest)) : tokens (c :: cs) = token :: tokens rest := by
  rw [tokens_eq, List.dropWhile_cons_of_neg (by rw [visible]; decide)]
  dsimp only
  rw [read]

@[simp] theorem tokens_openBrace (cs : List Char) : tokens ('\x7b' :: cs) = .openBrace :: tokens cs :=
  tokens_of_readToken? rfl rfl

@[simp] theorem tokens_closeBrace (cs : List Char) : tokens ('\x7d' :: cs) = .closeBrace :: tokens cs :=
  tokens_of_readToken? rfl rfl

@[simp] theorem tokens_openBracket (cs : List Char) : tokens ('[' :: cs) = .openBracket :: tokens cs :=
  tokens_of_readToken? rfl rfl

@[simp] theorem tokens_closeBracket (cs : List Char) : tokens (']' :: cs) = .closeBracket :: tokens cs :=
  tokens_of_readToken? rfl rfl

@[simp] theorem tokens_comma (cs : List Char) : tokens (',' :: cs) = .comma :: tokens cs :=
  tokens_of_readToken? rfl rfl

@[simp] theorem tokens_colon (cs : List Char) : tokens (':' :: cs) = .colon :: tokens cs :=
  tokens_of_readToken? rfl rfl

/-! ## Numerals -/

/-- Whether a character at the end of a numeral would belong to it. -/
def continuesNumeral (c : Char) : Bool :=
  c.isDigit || c = '.' || c = 'e' || c = 'E'

/-- A text that leaves a numeral in front of it as it is. -/
def EndsNumeral (cs : List Char) : Prop :=
  ∀ c ∈ cs.head?, continuesNumeral c = false

theorem EndsNumeral.spaces {blank : List Char} (spaces : ∀ c ∈ blank, isSpace c = true) : EndsNumeral blank := by
  intro c head
  rcases isSpace_cases (spaces c (List.mem_of_mem_head? head)) with rfl | rfl | rfl | rfl <;> rfl

theorem EndsNumeral.cons {c : Char} (other : continuesNumeral c = false) (cs : List Char) : EndsNumeral (c :: cs) := by
  rintro _ ⟨⟩
  exact other

/-- The digits of a positive number do not start with a zero. -/
theorem head?_toDigits_ne_zero {n : Nat} (positive : 0 < n) : (Nat.toDigits 10 n).head? ≠ some '0' := by
  induction n using Nat.strongRecOn with
  | ind n ih =>
    rcases Nat.lt_or_ge n 10 with small | large
    · have visible : ∀ d < 10, 0 < d → [Nat.digitChar d].head? ≠ some '0' := by decide
      rw [Nat.toDigits_of_lt_base small]
      exact visible n small positive
    · have earlier := ih (n / 10) (by omega) (by omega)
      obtain ⟨d, ds, spelled⟩ := List.exists_cons_of_ne_nil (Nat.toDigits_ne_nil (n := n / 10) (b := 10))
      rw [spelled] at earlier
      rwa [Nat.toDigits_of_base_le (by decide) large, spelled]

/-- The only digits of a number that start with a zero are that zero alone. -/
theorem toDigits_ne_zero_cons (n : Nat) (d : Char) (ds : List Char) : Nat.toDigits 10 n ≠ '0' :: d :: ds := by
  intro spelled
  rcases Nat.eq_zero_or_pos n with rfl | positive
  · cases spelled
  · exact head?_toDigits_ne_zero positive (by rw [spelled, List.head?_cons])

theorem digitsValue_toDigits (n : Nat) : Text.digitsValue (Nat.toDigits 10 n) = n := by
  have folded : Text.digitsValue (Nat.toDigits 10 n) = Nat.ofDigitChars 10 (Nat.toDigits 10 n) 0 := by
    simp only [Text.digitsValue, Nat.ofDigitChars, Nat.mul_comm, Text.digitValue]
  rw [folded, Nat.ofDigitChars_ten_toDigits]

namespace Numeral

theorem digits_toDigits (n : Nat) {rest : List Char} (ends : EndsNumeral rest) :
    digits (Nat.toDigits 10 n ++ rest) = (Nat.toDigits 10 n, rest) := by
  have all : ∀ c ∈ Nat.toDigits 10 n, c.isDigit = true := fun c mem =>
    Nat.isDigit_of_mem_toDigits (by decide) (by decide) mem
  rw [digits, List.takeWhile_append_of_pos all, List.dropWhile_append_of_pos all]
  cases rest with
  | nil => simp
  | cons c rest =>
    have other : c.isDigit = false := by
      have := ends c rfl
      simp only [continuesNumeral, Bool.or_eq_false_iff] at this
      exact this.1.1.1
    rw [List.takeWhile_cons_of_neg (by simp [other]), List.dropWhile_cons_of_neg (by simp [other]), List.append_nil]

theorem readWhole?_toDigits (n : Nat) {rest : List Char} (ends : EndsNumeral rest) :
    readWhole? (Nat.toDigits 10 n ++ rest) = some (n, rest) := by
  rw [readWhole?, digits_toDigits n ends]
  split
  case h_1 spelled => exact absurd (Prod.mk.inj spelled).1 Nat.toDigits_ne_nil
  case h_2 spelled => exact absurd (Prod.mk.inj spelled).1 (toDigits_ne_zero_cons n _ _)
  case h_3 spelled =>
    obtain ⟨rfl, rfl⟩ := Prod.mk.inj spelled
    rw [digitsValue_toDigits]

theorem readFraction?_of_ends {rest : List Char} (ends : EndsNumeral rest) :
    readFraction? rest = some ([], rest) := by
  unfold readFraction?
  split
  case h_1 => cases ends '.' rfl
  case h_2 => rfl

theorem readExponent?_of_ends {rest : List Char} (ends : EndsNumeral rest) :
    readExponent? rest = some (none, rest) := by
  unfold readExponent?
  split
  case h_1 c cs =>
    have other := ends c rfl
    simp only [continuesNumeral, Bool.or_eq_false_iff, decide_eq_false_iff_not] at other
    rw [if_neg (by simp [other])]
  case h_2 => rfl

/-- The numeral of an integer. -/
def ofInt (value : Int) : Numeral where
  negative := value < 0
  whole := value.natAbs
  fraction := []
  exponent := none

theorem read?_integer (value : Int) {rest : List Char} (ends : EndsNumeral rest) :
    read? ((Number.integer value).chars ++ rest) = some (ofInt value, rest) := by
  have whole := readWhole?_toDigits value.natAbs ends
  have fraction := readFraction?_of_ends ends
  have exponent := readExponent?_of_ends ends
  by_cases negative : value < 0
  case pos => simp [read?, Number.chars, negative, whole, fraction, exponent, ofInt]
  case neg =>
    obtain ⟨d, ds, spelled⟩ := List.exists_cons_of_ne_nil (Nat.toDigits_ne_nil (n := value.natAbs) (b := 10))
    have digit : d.isDigit = true := Nat.isDigit_of_mem_toDigits (by decide) (by decide) (spelled ▸ List.mem_cons_self)
    have unsigned : d ≠ '-' := by
      rintro rfl
      cases digit
    rw [spelled, List.cons_append] at whole
    simp [read?, Number.chars, negative, spelled, unsigned, whole, fraction, exponent, ofInt]

end Numeral

/-- Only a numeral starts with a digit or a minus sign. -/
theorem readToken?_numeral {c : Char} (starts : c.isDigit = true ∨ c = '-') (cs : List Char) :
    readToken? (c :: cs) = (Numeral.read? (c :: cs)).map fun (numeral, rest) => (.number numeral, rest) := by
  unfold readToken?
  split
  case h_11 => rfl
  all_goals
    rename_i spelled
    obtain ⟨rfl, -⟩ := List.cons.inj spelled
    exact absurd starts (by decide)

theorem head_chars_integer (value : Int) :
    ∃ c cs, (Number.integer value).chars = c :: cs ∧ (c.isDigit = true ∨ c = '-') := by
  by_cases negative : value < 0
  case pos => exact ⟨'-', Nat.toDigits 10 value.natAbs, by simp [Number.chars, negative], .inr rfl⟩
  case neg =>
    obtain ⟨d, ds, spelled⟩ := List.exists_cons_of_ne_nil (Nat.toDigits_ne_nil (n := value.natAbs) (b := 10))
    refine ⟨d, ds, by simp [Number.chars, negative, spelled], .inl ?_⟩
    exact Nat.isDigit_of_mem_toDigits (by decide) (by decide) (spelled ▸ List.mem_cons_self)

/-- An integer is read as its numeral. -/
theorem tokens_integer (value : Int) {rest : List Char} (ends : EndsNumeral rest) :
    tokens ((Number.integer value).chars ++ rest) = .number (.ofInt value) :: tokens rest := by
  have read := Numeral.read?_integer value ends
  obtain ⟨c, cs, spelled, starts⟩ := head_chars_integer value
  rw [spelled, List.cons_append] at read ⊢
  refine tokens_of_readToken? ?_ (by rw [readToken?_numeral starts, read]; rfl)
  rw [Bool.eq_false_iff]
  intro space
  rcases isSpace_cases space with rfl | rfl | rfl | rfl <;> exact absurd starts (by decide)

/-! ## Strings -/

/-- The piece that a character of a string is written as. -/
def pieceOf (c : Char) : Piece :=
  if c.toNat < 0x20 ∧ c ∉ ['\x08', '\x0c', '\n', '\r', '\t'] then .code c.toNat else .char c

theorem readCode?_digits {n : Nat} (small : n < 256) :
    readCode? '0' '0' (Nat.digitChar (n / 16)) (Nat.digitChar (n % 16)) = some n := by
  have zero : Hex.value? '0' = some 0 := by decide
  have high := Hex.value?_digitChar (n / 16) (by omega)
  have low := Hex.value?_digitChar (n % 16) (by omega)
  simp only [readCode?, zero, high, low, Option.bind_eq_bind, Option.bind_some, Option.pure_def, Option.some.injEq]
  omega

/-- A character of a string is written as a one-letter escape, as the escape of its number, or as itself. -/
theorem escapeChar_cases (c : Char) :
    (∃ e, shortEscape? e = some c ∧ escapeChar c = ['\\', e] ∧ pieceOf c = .char c) ∨
    (c.toNat < 0x20 ∧ pieceOf c = .code c.toNat ∧
      escapeChar c = ['\\', 'u', '0', '0', Nat.digitChar (c.toNat / 16), Nat.digitChar (c.toNat % 16)]) ∨
    (c ≠ '"' ∧ c ≠ '\\' ∧ 0x20 ≤ c.toNat ∧ escapeChar c = [c] ∧ pieceOf c = .char c) := by
  by_cases short : c ∈ ['"', '\\', '\x08', '\x0c', '\n', '\r', '\t']
  case pos =>
    left
    simp only [List.mem_cons, List.not_mem_nil, or_false] at short
    rcases short with rfl | rfl | rfl | rfl | rfl | rfl | rfl
    · exact ⟨'"', rfl, rfl, rfl⟩
    · exact ⟨'\\', rfl, rfl, rfl⟩
    · exact ⟨'b', rfl, rfl, rfl⟩
    · exact ⟨'f', rfl, rfl, rfl⟩
    · exact ⟨'n', rfl, rfl, rfl⟩
    · exact ⟨'r', rfl, rfl, rfl⟩
    · exact ⟨'t', rfl, rfl, rfl⟩
  case neg =>
    right
    simp only [List.mem_cons, List.not_mem_nil, or_false, not_or] at short
    rcases Nat.lt_or_ge c.toNat 0x20 with control | visible
    · exact .inl ⟨control, by simp [pieceOf, control, short], by simp [escapeChar, control, short]⟩
    · have shown : ¬c.toNat < 0x20 := Nat.not_lt.mpr visible
      exact .inr ⟨short.1, short.2.1, visible, by simp [escapeChar, shown, short], by simp [pieceOf, shown]⟩

/-- A character of a string is read as its piece. -/
theorem readPieces?_escapeChar (c : Char) (cs : List Char) :
    readPieces? (escapeChar c ++ cs) = (readPieces? cs).map fun (pieces, rest) => (pieceOf c :: pieces, rest) := by
  rcases escapeChar_cases c with ⟨e, escape, written, piece⟩ | ⟨control, piece, written⟩ |
    ⟨noQuote, noBackslash, visible, written, piece⟩
  · have letter : e ≠ 'u' := by
      rintro rfl
      cases escape
    rw [written, piece, List.cons_append, List.cons_append, List.nil_append, readPieces?]
    · rw [escape]
      cases readPieces? cs <;> rfl
    · rintro _ _ _ _ _ rfl
      exact absurd rfl letter
  · rw [written, piece]
    simp only [List.cons_append, List.nil_append]
    rw [readPieces?, readCode?_digits (by omega)]
    cases readPieces? cs <;> rfl
  · rw [written, piece, List.cons_append, List.nil_append, readPieces?]
    · rw [if_neg (Nat.not_lt.mpr visible)]
      cases readPieces? cs <;> rfl
    · exact noQuote
    · rintro _ _ _ _ _ rfl
      exact absurd rfl noBackslash
    · rintro _ _ rfl
      exact absurd rfl noBackslash
    · rintro rfl
      exact absurd rfl noBackslash

theorem readPieces?_chars (cs rest : List Char) :
    readPieces? (cs.flatMap escapeChar ++ '"' :: rest) = some (cs.map pieceOf, rest) := by
  induction cs with
  | nil => simp [readPieces?]
  | cons c cs ih => rw [List.flatMap_cons, List.append_assoc, readPieces?_escapeChar, ih]; rfl

/-- A string is read as the pieces that its characters are written as. -/
theorem tokens_string (s : String) (rest : List Char) :
    tokens (stringChars s ++ rest) = .string (s.toList.map pieceOf) :: tokens rest := by
  have spelled : stringChars s ++ rest = '"' :: (s.toList.flatMap escapeChar ++ '"' :: rest) := by
    simp [stringChars]
  rw [spelled]
  refine tokens_of_readToken? rfl ?_
  rw [readToken?, readPieces?_chars]
  rfl

theorem joinPieces?_code {n : Nat} (low : n < 0xd800) (pieces : List Piece) :
    joinPieces? (.code n :: pieces) = (joinPieces? pieces).map (Char.ofNat n :: ·) := by
  have noHigh : isHighHalf n = false := by
    rw [isHighHalf, Bool.and_eq_false_iff]
    exact .inl (decide_eq_false (by omega))
  have noLow : isLowHalf n = false := by
    rw [isLowHalf, Bool.and_eq_false_iff]
    exact .inl (decide_eq_false (by omega))
  cases pieces with
  | nil => simp [joinPieces?, noHigh, noLow]
  | cons piece pieces =>
    cases piece with
    | char c => simp [joinPieces?, noHigh, noLow]
    | code m =>
      rw [joinPieces?, noHigh, noLow]
      rfl

/-- Pieces denote the characters that were written as them. -/
theorem joinPieces?_pieceOf (cs : List Char) : joinPieces? (cs.map pieceOf) = some cs := by
  induction cs with
  | nil => rfl
  | cons c cs ih =>
    rw [List.map_cons]
    by_cases control : c.toNat < 0x20 ∧ c ∉ ['\x08', '\x0c', '\n', '\r', '\t']
    case pos => rw [pieceOf, if_pos control, joinPieces?_code (by omega), ih, Option.map_some, Char.ofNat_toNat]
    case neg => rw [pieceOf, if_neg control, joinPieces?, ih, Option.map_some]

end Allotment.Json
