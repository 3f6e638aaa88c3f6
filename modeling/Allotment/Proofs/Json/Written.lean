import Allotment.Json.Document
import Allotment.Proofs.Json.Tokens

/-!
# Reading the text of a value

`Json.document` is what the text of a value says: the value with its integers as numerals and its strings as pieces.
Whatever the layout, the text spells the tokens of that document (`tokens_charsAt`), the document is read from its
tokens (`Document.readValue_tokens`), and so the text of a value is read as its document, with nothing left
(`read_render`).
-/

namespace Allotment.Json

/-! ## The tokens of a document -/

mutual

/-- The tokens that spell a document. -/
def Document.tokens : Document → List Token
  | .fault => [.fault]
  | .null => [.null]
  | .bool value => [.bool value]
  | .number numeral => [.number numeral]
  | .string pieces => [.string pieces]
  | .array [] => [.openBracket, .closeBracket]
  | .array (item :: items) => .openBracket :: item.tokens ++ itemsTokens items ++ [.closeBracket]
  | .object [] => [.openBrace, .closeBrace]
  | .object ((name, value) :: members) =>
    .openBrace :: name.tokens ++ .colon :: value.tokens ++ membersTokens members ++ [.closeBrace]

/-- The tokens of the items after the first one. -/
def Document.itemsTokens : List Document → List Token
  | [] => []
  | item :: items => .comma :: item.tokens ++ itemsTokens items

/-- The tokens of the members after the first one. -/
def Document.membersTokens : List (Document × Document) → List Token
  | [] => []
  | (name, value) :: members => .comma :: name.tokens ++ .colon :: value.tokens ++ membersTokens members

end

namespace Document

/-- A document without faults does not start with the end of a container. -/
theorem head_tokens {d : Document} (sound : d.sound = true) :
    ∃ token ts, d.tokens = token :: ts ∧ token ≠ .closeBracket ∧ token ≠ .closeBrace := by
  cases d with
  | fault => cases sound
  | null => exact ⟨_, _, rfl, by decide, by decide⟩
  | bool value => exact ⟨_, _, rfl, Token.noConfusion, Token.noConfusion⟩
  | number numeral => exact ⟨_, _, rfl, Token.noConfusion, Token.noConfusion⟩
  | string pieces => exact ⟨_, _, rfl, Token.noConfusion, Token.noConfusion⟩
  | array items =>
    cases items with
    | nil => exact ⟨_, _, rfl, by decide, by decide⟩
    | cons item items => exact ⟨_, _, by rw [tokens, List.cons_append]; rfl, by decide, by decide⟩
  | object members =>
    cases members with
    | nil => exact ⟨_, _, rfl, by decide, by decide⟩
    | cons member members => exact ⟨_, _, by rw [tokens, List.cons_append]; rfl, by decide, by decide⟩

theorem eq_string {d : Document} (isString : d.isString = true) : ∃ pieces, d = .string pieces := by
  cases d with
  | string pieces => exact ⟨pieces, rfl⟩
  | fault | null | bool _ | number _ | array _ | object _ => cases isString

theorem soundMembers_cons {name value : Document} {members : List (Document × Document)}
    (sound : soundMembers ((name, value) :: members) = true) :
    name.isString = true ∧ value.sound = true ∧ soundMembers members = true := by
  rwa [soundMembers, Bool.and_eq_true_iff, Bool.and_eq_true_iff, and_assoc] at sound

theorem readValue_openBracket (fuel : Nat) {token : Token} (more : token ≠ .closeBracket) (ts : List Token) :
    readValue (fuel + 1) (.openBracket :: token :: ts) =
      (.array (readItems fuel (token :: ts)).1, (readItems fuel (token :: ts)).2) := by
  rw [readValue]
  rintro _ ⟨⟩
  exact more rfl

theorem readValue_openBrace (fuel : Nat) {token : Token} (more : token ≠ .closeBrace) (ts : List Token) :
    readValue (fuel + 1) (.openBrace :: token :: ts) =
      (.object (readMembers fuel (token :: ts)).1, (readMembers fuel (token :: ts)).2) := by
  rw [readValue]
  rintro _ ⟨⟩
  exact more rfl

/-- What is said of the three readers together, for the induction on the fuel that they share. -/
structure ReadsBack (fuel : Nat) : Prop where
  value {d : Document} (sound : d.sound = true) (enough : d.tokens.length ≤ fuel) (rest : List Token) :
    readValue fuel (d.tokens ++ rest) = (d, rest)
  items {item : Document} {items : List Document} (sound : soundItems (item :: items) = true)
    (enough : (item.tokens ++ itemsTokens items).length < fuel) (rest : List Token) :
    readItems fuel (item.tokens ++ itemsTokens items ++ .closeBracket :: rest) = (item :: items, rest)
  members {name value : Document} {members : List (Document × Document)}
    (sound : soundMembers ((name, value) :: members) = true)
    (enough : (name.tokens ++ .colon :: value.tokens ++ membersTokens members).length < fuel) (rest : List Token) :
    readMembers fuel (name.tokens ++ .colon :: value.tokens ++ membersTokens members ++ .closeBrace :: rest) =
      ((name, value) :: members, rest)

theorem readsBack_zero : ReadsBack 0 where
  value {d} sound enough _ := by
    obtain ⟨token, ts, spelled, -⟩ := head_tokens sound
    rw [spelled] at enough
    cases enough
  items _ enough _ := nomatch enough
  members _ enough _ := nomatch enough

/-- A container is read by reading what is in it with one fuel less. -/
theorem ReadsBack.value_succ {fuel : Nat} (ih : ReadsBack fuel) {d : Document} (sound : d.sound = true)
    (enough : d.tokens.length ≤ fuel + 1) (rest : List Token) :
    readValue (fuel + 1) (d.tokens ++ rest) = (d, rest) := by
  cases d with
  | fault => cases sound
  | null | bool _ | number _ | string _ => rfl
  | array items =>
    cases items with
    | nil => rfl
    | cons item items =>
      have shorter : (item.tokens ++ itemsTokens items).length < fuel := by
        simp only [tokens, List.length_append, List.length_cons, List.length_nil] at enough ⊢
        omega
      have inside := ih.items sound shorter rest
      obtain ⟨token, ts, spelled, more, -⟩ := head_tokens (Bool.and_eq_true_iff.mp sound).1
      simp only [tokens, List.cons_append, List.append_assoc, List.nil_append] at inside ⊢
      rw [spelled, List.cons_append] at inside ⊢
      rw [readValue_openBracket fuel more, inside]
  | object members =>
    cases members with
    | nil => rfl
    | cons member members =>
      obtain ⟨name, value⟩ := member
      have shorter : (name.tokens ++ .colon :: value.tokens ++ membersTokens members).length < fuel := by
        simp only [tokens, List.length_append, List.length_cons, List.length_nil] at enough ⊢
        omega
      have inside := ih.members sound shorter rest
      obtain ⟨pieces, rfl⟩ := eq_string (soundMembers_cons sound).1
      simp only [tokens, List.cons_append, List.append_assoc, List.nil_append] at inside ⊢
      rw [readValue_openBrace fuel Token.noConfusion, inside]

/-- An item is read, and then what the token after it calls for. -/
theorem ReadsBack.items_succ {fuel : Nat} (ih : ReadsBack fuel) {item : Document} {items : List Document}
    (sound : soundItems (item :: items) = true) (enough : (item.tokens ++ itemsTokens items).length < fuel + 1)
    (rest : List Token) :
    readItems (fuel + 1) (item.tokens ++ itemsTokens items ++ .closeBracket :: rest) = (item :: items, rest) := by
  obtain ⟨first, others⟩ := Bool.and_eq_true_iff.mp sound
  rw [List.length_append] at enough
  have read := ih.value first (by omega)
  rw [readItems, List.append_assoc, read]
  cases items with
  | nil => rfl
  | cons next items =>
    have shorter : (next.tokens ++ itemsTokens items).length < fuel := by
      simp only [itemsTokens, List.length_append, List.length_cons] at enough ⊢
      omega
    have later := ih.items others shorter rest
    simp only [itemsTokens, List.cons_append, later]

/-- A member is read, and then what the token after it calls for. -/
theorem ReadsBack.members_succ {fuel : Nat} (ih : ReadsBack fuel) {name value : Document}
    {members : List (Document × Document)} (sound : soundMembers ((name, value) :: members) = true)
    (enough : (name.tokens ++ .colon :: value.tokens ++ membersTokens members).length < fuel + 1)
    (rest : List Token) :
    readMembers (fuel + 1) (name.tokens ++ .colon :: value.tokens ++ membersTokens members ++ .closeBrace :: rest) =
      ((name, value) :: members, rest) := by
  obtain ⟨isString, second, others⟩ := soundMembers_cons sound
  obtain ⟨pieces, rfl⟩ := eq_string isString
  simp only [tokens, List.length_append, List.length_cons, List.length_nil] at enough
  have first (rest : List Token) : readValue fuel (.string pieces :: rest) = (.string pieces, rest) :=
    ih.value (d := .string pieces) rfl (by rw [tokens, List.length_singleton]; omega) rest
  have read := ih.value second (by omega)
  simp only [tokens, List.cons_append, List.nil_append, List.append_assoc]
  rw [readMembers, first]
  dsimp only
  rw [read]
  cases members with
  | nil => rfl
  | cons next members =>
    obtain ⟨name', value'⟩ := next
    have shorter : (name'.tokens ++ .colon :: value'.tokens ++ membersTokens members).length < fuel := by
      simp only [membersTokens, List.length_append, List.length_cons] at enough ⊢
      omega
    have later := ih.members others shorter rest
    simp only [membersTokens, List.cons_append, later]

theorem readsBack (fuel : Nat) : ReadsBack fuel := by
  induction fuel with
  | zero => exact readsBack_zero
  | succ fuel ih => exact ⟨ih.value_succ, ih.items_succ, ih.members_succ⟩

/-- A document without faults is read from its tokens. -/
theorem readValue_tokens {d : Document} (sound : d.sound = true) {fuel : Nat} (enough : d.tokens.length ≤ fuel)
    (rest : List Token) : readValue fuel (d.tokens ++ rest) = (d, rest) :=
  (readsBack fuel).value sound enough rest

end Document

/-! ## The tokens of a text -/

/-- What the text of a number says; nothing is said here of floating-point numbers. -/
def Number.document : Number → Document
  | .integer value => .number (.ofInt value)
  | .real _ => .fault

mutual

/-- What the text of a value says. -/
def document : Json → Document
  | .null => .null
  | .bool value => .bool value
  | .number value => value.document
  | .string value => .string (value.toList.map pieceOf)
  | .array items => .array (documents items)
  | .object members => .object (memberDocuments members)

/-- What the texts of some values say. -/
def documents : List Json → List Document
  | [] => []
  | item :: items => item.document :: documents items

/-- What the texts of some members say. -/
def memberDocuments : List (String × Json) → List (Document × Document)
  | [] => []
  | (name, value) :: members => (.string (name.toList.map pieceOf), value.document) :: memberDocuments members

end

/-! ### Between the tokens -/

namespace Layout

theorem spaces_lineBreak (layout : Layout) (depth : Nat) : ∀ c ∈ layout.lineBreak depth, isSpace c = true := by
  cases layout with
  | compact => exact fun _ mem => nomatch mem
  | pretty =>
    rintro c (_ | ⟨_, mem⟩)
    · rfl
    · rw [List.eq_of_mem_replicate mem]
      rfl

@[simp] theorem tokens_lineBreak (layout : Layout) (depth : Nat) (cs : List Char) :
    tokens (layout.lineBreak depth ++ cs) = tokens cs :=
  tokens_spaces (layout.spaces_lineBreak depth) cs

@[simp] theorem tokens_colon (layout : Layout) (cs : List Char) :
    tokens (layout.colon ++ cs) = .colon :: tokens cs := by
  cases layout with
  | compact => exact Json.tokens_colon cs
  | pretty =>
    rw [colon, List.cons_append, Json.tokens_colon, tokens_spaces (List.forall_mem_singleton.mpr rfl)]

theorem endsNumeral_lineBreak (layout : Layout) (depth : Nat) {cs : List Char} (ends : EndsNumeral cs) :
    EndsNumeral (layout.lineBreak depth ++ cs) := by
  cases layout with
  | compact => exact ends
  | pretty => exact .cons rfl _

end Layout

variable (layout : Layout) (depth : Nat)

theorem endsNumeral_itemsChars (items : List Json) {cs : List Char} (ends : EndsNumeral cs) :
    EndsNumeral (itemsChars layout depth items ++ cs) := by
  cases items with
  | nil => exact ends
  | cons item items =>
    rw [itemsChars]
    exact .cons rfl _

theorem endsNumeral_membersChars (members : List (String × Json)) {cs : List Char} (ends : EndsNumeral cs) :
    EndsNumeral (membersChars layout depth members ++ cs) := by
  cases members with
  | nil => exact ends
  | cons member members =>
    rw [membersChars]
    exact .cons rfl _

mutual

/-- The text of a value spells the tokens of its document, whatever follows it but the rest of a numeral. -/
theorem tokens_charsAt (depth : Nat) (value : Json) (sound : value.document.sound = true) {rest : List Char}
    (ends : EndsNumeral rest) :
    tokens (value.charsAt layout depth ++ rest) = value.document.tokens ++ tokens rest := by
  match value with
  | .null => exact tokens_of_readToken? rfl rfl
  | .bool true => exact tokens_of_readToken? rfl rfl
  | .bool false => exact tokens_of_readToken? rfl rfl
  | .number (.integer value) => exact tokens_integer value ends
  | .number (.real value) => cases sound
  | .string value => exact tokens_string value rest
  | .array [] =>
    show tokens ('[' :: ']' :: rest) = _
    simp [document, documents, Document.tokens]
  | .array (item :: items) =>
    obtain ⟨first, others⟩ := Bool.and_eq_true_iff.mp sound
    have closing : EndsNumeral (layout.lineBreak depth ++ ']' :: rest) :=
      layout.endsNumeral_lineBreak depth (.cons rfl _)
    simp only [charsAt, List.cons_append, List.append_assoc, List.nil_append, tokens_openBracket,
      Layout.tokens_lineBreak]
    rw [tokens_charsAt (depth + 1) item first (endsNumeral_itemsChars layout (depth + 1) items closing),
      tokens_itemsChars (depth + 1) items others closing]
    simp [document, documents, Document.tokens]
  | .object [] =>
    show tokens ('\x7b' :: '\x7d' :: rest) = _
    simp [document, memberDocuments, Document.tokens]
  | .object ((name, value) :: members) =>
    obtain ⟨-, first, others⟩ := Document.soundMembers_cons sound
    have closing : EndsNumeral (layout.lineBreak depth ++ '\x7d' :: rest) :=
      layout.endsNumeral_lineBreak depth (.cons rfl _)
    simp only [charsAt, List.cons_append, List.append_assoc, List.nil_append, tokens_openBrace,
      Layout.tokens_lineBreak, tokens_string, Layout.tokens_colon]
    rw [tokens_charsAt (depth + 1) value first (endsNumeral_membersChars layout (depth + 1) members closing),
      tokens_membersChars (depth + 1) members others closing]
    simp [document, memberDocuments, Document.tokens]

/-- The text of the items after the first one spells the tokens of their documents. -/
theorem tokens_itemsChars (depth : Nat) (items : List Json) (sound : Document.soundItems (documents items) = true)
    {rest : List Char} (ends : EndsNumeral rest) :
    tokens (itemsChars layout depth items ++ rest) = Document.itemsTokens (documents items) ++ tokens rest := by
  match items with
  | [] => rfl
  | item :: items =>
    obtain ⟨first, others⟩ := Bool.and_eq_true_iff.mp sound
    simp only [itemsChars, List.cons_append, List.append_assoc, tokens_comma, Layout.tokens_lineBreak]
    rw [tokens_charsAt depth item first (endsNumeral_itemsChars layout depth items ends),
      tokens_itemsChars depth items others ends]
    simp [documents, Document.itemsTokens]

/-- The text of the members after the first one spells the tokens of their documents. -/
theorem tokens_membersChars (depth : Nat) (members : List (String × Json))
    (sound : Document.soundMembers (memberDocuments members) = true) {rest : List Char} (ends : EndsNumeral rest) :
    tokens (membersChars layout depth members ++ rest) =
      Document.membersTokens (memberDocuments members) ++ tokens rest := by
  match members with
  | [] => rfl
  | (name, value) :: members =>
    obtain ⟨-, first, others⟩ := Document.soundMembers_cons sound
    simp only [membersChars, List.cons_append, List.append_assoc, tokens_comma, Layout.tokens_lineBreak, tokens_string,
      Layout.tokens_colon]
    rw [tokens_charsAt depth value first (endsNumeral_membersChars layout depth members ends),
      tokens_membersChars depth members others ends]
    simp [memberDocuments, Document.membersTokens, Document.tokens]

end

/-- **The text of a value is read as its document**, with nothing left, also when white space follows it. -/
theorem read_render {value : Json} (sound : value.document.sound = true) {blank : List Char}
    (spaces : ∀ c ∈ blank, isSpace c = true) :
    read (value.render layout ++ String.ofList blank) = ⟨value.document, true⟩ := by
  have spelled : tokens (value.render layout ++ String.ofList blank).toList = value.document.tokens := by
    have nothing : tokens blank = [] := by
      rw [← List.append_nil blank, tokens_spaces spaces, tokens_nil]
    rw [render, String.toList_append, String.toList_ofList, String.toList_ofList,
      tokens_charsAt layout 0 value sound (.spaces spaces), nothing, List.append_nil]
  have enough : value.document.tokens.length ≤ 2 * value.document.tokens.length + 2 := by omega
  have whole := Document.readValue_tokens sound enough []
  rw [List.append_nil] at whole
  simp only [read, spelled, whole]
  rfl

end Allotment.Json
